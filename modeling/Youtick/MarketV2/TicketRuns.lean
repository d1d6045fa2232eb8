import Youtick.MarketV2.Liabilities

/-!
# Market V2: one ticket in a run

What a step of the world does to the ticket stored under one key: nothing, or one `TicketStep`.
A batch of releases is no exception, because a ticket that was released is not in escrow any more.
-/

set_option autoImplicit false

namespace Youtick.MarketV2

open Youtick.Lib

/-! ## One call -/

section Effects

variable {env : Env} {s : Contract} {c : Call} {t t' : Till} {ps : List Promise}

/-- A call leaves the ticket under `k` alone or makes one change to it. -/
def TicketKept (env : Env) (s : Contract) (c : Call) (k : String) (t t' : Till) : Prop :=
  t'.tickets.get k = t.tickets.get k ∨
    ∃ new flow, t'.tickets.get k = some new ∧ TicketStep env s c k (t.tickets.get k) new flow

theorem TillStep.ticketKept (h : TillStep env s c t ps t') (k : String) :
    TicketKept env s c k t t' := by
  cases h with
  | quiet | vatKeyRevoked | withdrawalFinished => exact .inl rfl
  | jobFee => exact .inl (by rw [Till.credit_tickets])
  | @ticket _ k' old new flow _ hget hstep hcovered =>
    by_cases hk : k = k'
    · subst hk
      refine .inr ⟨new, flow, ?_, hget ▸ hstep⟩
      rw [Flow.apply_tickets]
      exact LookupMap.get_insert_self _ _ _
    · refine .inl ?_
      rw [Flow.apply_tickets]
      exact LookupMap.get_insert_of_ne _ _ hk
  | withdrawn => exact .inl (by rw [Till.setBalance_tickets])
  | withdrawalRestored => exact .inl (by rw [Till.credit_tickets])

/-- A release call changes a ticket by releasing it. -/
theorem TicketStep.release_inv {ids : List String} {k : String} {before : Option Ticket}
    {new : Ticket} {flow : Flow} (h : TicketStep env s (.releaseExpired ids) k before new flow) :
    ∃ ticket, before = some ticket ∧ new = { ticket with status := .released } ∧ flow = .settle ∧
      k ∈ ids ∧ ReleaseDue env s ticket := by
  cases h with
  | released hmem hdue => exact ⟨_, rfl, rfl, rfl, hmem, hdue⟩
  | deviceRevoked hc =>
    rcases hc with ⟨_, _, _, hc, -⟩ | hc
    · cases hc
    · cases hc

theorem TillEffect.ticketKept (h : TillEffect env s c t ps t') (k : String) :
    TicketKept env s c k t t' := by
  cases h with
  | once hstep => exact hstep.ticketKept k
  | @batch ids _ _ hrun =>
    induction hrun with
    | refl => exact .inl rfl
    | @tail mid last _ hstep ih =>
      rcases hstep.ticketKept k with hsame | ⟨new, flow, hnew, hchange⟩
      · rw [TicketKept, hsame]
        exact ih
      · -- A second release of the same ticket would find it out of escrow.
        rcases ih with hfirst | ⟨released, _, hmid, hfirst⟩
        · exact .inr ⟨new, flow, hnew, hfirst ▸ hchange⟩
        · obtain ⟨_, -, rfl, -⟩ := hfirst.release_inv
          obtain ⟨ticket, hticket, -, -, -, hdue⟩ := hchange.release_inv
          obtain rfl := Option.some.inj (hmid.symm.trans hticket)
          rcases hdue.1.2 with hstatus | hstatus <;> cases hstatus

/-- A refund is sent by the change that starts it. -/
theorem TillEffect.refund_sent (h : TillEffect env s c t ps t') {p : Promise} (hp : p ∈ ps)
    {k : String} (htag : p.refundedTicket = some k) :
    ∃ new receiverId status,
      TicketStep env s c k (t.tickets.get k) new (.payOut receiverId status) := by
  have hsome : p.refund ≠ none := by
    intro hnone
    rw [Promise.refundedTicket, hnone] at htag
    cases htag
  cases h with
  | batch => cases hp
  | once hstep =>
    cases hstep with
    | quiet _ hps => exact absurd (Promise.refund_of_not_usdc (hps p hp)) hsome
    | @ticket _ k' _ new flow _ hget hticket _ =>
      cases flow with
      | payOut receiverId status =>
        obtain rfl := List.mem_singleton.mp hp
        obtain rfl : k' = k := Option.some.inj htag
        exact ⟨new, receiverId, status, hget ▸ hticket⟩
      | still | deposit | reference | payBack | settle => cases hp
    | withdrawn _ hcallback =>
      obtain rfl := List.mem_singleton.mp hp
      exact absurd (Promise.refund_of_pot hcallback) hsome
    | vatKeyRevoked | jobFee | withdrawalFinished | withdrawalRestored => cases hp

end Effects

/-! ## One step of the world -/

section World

variable {host : Host} {w w' : World} {l : Label}

def World.ticket (w : World) (k : String) : Option Ticket := w.contract.tickets.get k

/-- The step delivered a call that made `new` of the ticket under `k`. -/
structure TicketChange (host : Host) (w : World) (l : Label) (w' : World) (k : String)
    (ctx : Context) (c : Call) (new : Ticket) (flow : Flow) : Prop where
  delivery : ∃ rest, Delivery host w l ctx c rest
  now : w'.now = ctx.blockTimestampMs
  ran : ∃ o, c.run ⟨host, ctx⟩ w.contract = .ok o ∧ w'.contract = o.state
  ticket : w'.ticket k = some new
  step : TicketStep ⟨host, ctx⟩ w.contract c k (w.ticket k) new flow

theorem World.Sound.ticket_cases (hsound : w.Sound) (h : worldStep host w l w') (k : String) :
    w'.ticket k = w.ticket k ∨
      ∃ ctx c new flow, TicketChange host w l w' k ctx c new flow := by
  cases World.step_cases h with
  | @ran _ ctx c rest o hdelivery hnow hrun =>
    rcases ((Call.run_effect hrun).till hsound.books.keyed).ticketKept k with
      hsame | ⟨new, flow, hnew, hstep⟩
    · exact .inl hsame
    · exact .inr ⟨ctx, c, new, flow, ⟨rest, hdelivery⟩, rfl, ⟨o, hrun, rfl⟩, hnew, hstep⟩
  | panicked | landed | dropped => exact .inl rfl

/-- The callback of a failed refund is delivered by its failed receipt. -/
theorem TicketChange.failed_refund {k : String} {ctx : Context} {receiverId : AccountId}
    {amount : Nat} {restoreStatus : Option TicketStatus} {new : Ticket} {flow : Flow}
    (h : TicketChange host w l w' k ctx (.callback (.onTicketRefund k receiverId amount
      restoreStatus)) new flow) (hfailed : ctx.promiseResults = [.failed]) :
    ∃ promise, ⟨promise, some false⟩ ∈ w.pending ∧ promise.refundedTicket = some k := by
  obtain ⟨rest, hdelivery⟩ := h.delivery
  obtain ⟨o, hrun, -⟩ := h.ran
  obtain ⟨i, promise, ok, hget, hcallback, -, hresult⟩ := hdelivery.callback_inv hrun
  have htag : promise.refundedTicket = some k := by
    rw [Promise.refundedTicket, Promise.refund, hcallback]
    rfl
  cases ok with
  | false => exact ⟨promise, List.mem_of_getElem? hget, htag⟩
  | true =>
    rw [hresult] at hfailed
    cases hfailed

/-- The terms of a stored ticket never change, and it is never deleted. -/
theorem World.Sound.terms_step (hsound : w.Sound) (h : worldStep host w l w') {k : String}
    {ticket : Ticket} (hget : w.ticket k = some ticket) :
    ∃ ticket', w'.ticket k = some ticket' ∧ ticket'.terms = ticket.terms := by
  rcases hsound.ticket_cases h k with hsame | ⟨ctx, c, new, flow, hchange⟩
  · exact ⟨ticket, hsame.trans hget, rfl⟩
  · have hstep := hchange.step
    rw [hget] at hstep
    exact ⟨new, hchange.ticket, hstep.terms⟩

theorem World.Sound.terms_trace (hsound : w.Sound) {tr : List (Transition World Label)}
    (h : Trace (worldStep host) w tr w') {k : String} {ticket : Ticket}
    (hget : w.ticket k = some ticket) :
    ∃ ticket', w'.ticket k = some ticket' ∧ ticket'.terms = ticket.terms := by
  induction h with
  | nil => exact ⟨ticket, hget, rfl⟩
  | snoc htr hstep ih =>
    have hmid := htr.invariant (I := World.Sound) (fun _ _ _ hs hst => hs.step hst) hsound
    obtain ⟨mid, hmidget, hmidterms⟩ := ih
    obtain ⟨last, hlast, hterms⟩ := hmid.terms_step hstep hmidget
    exact ⟨last, hlast, hterms.trans hmidterms⟩

end World

end Youtick.MarketV2
