import Youtick.MarketV2.Lifecycle
import Youtick.MarketV2.PublicationIndex

/-!
# Market V2: a ticket that was watched stays watched

A ticket leaves `purchased` once: a refund that fails restores the status the ticket had, so that a
watched ticket never becomes purchased again (`Played`). A taken down publication stays down.
-/

set_option autoImplicit false

namespace Youtick.MarketV2

open Youtick.Lib

/-- The world comes later in a run. -/
def World.Later (host : Host) (w w' : World) : Prop := ∃ tr, Trace (worldStep host) w tr w'

theorem World.Later.refl (host : Host) (w : World) : w.Later host w := ⟨[], .nil⟩

theorem World.Later.snoc {host : Host} {w w' w'' : World} {l : Label} (h : w.Later host w')
    (hstep : worldStep host w' l w'') : w.Later host w'' := by
  obtain ⟨tr, htr⟩ := h
  exact ⟨_, htr.snoc hstep⟩

/-- The ticket was watched, and no refund of it that may still fail makes it purchased again. -/
structure Played (k : String) (w : World) : Prop where
  ticket : ∃ ticket, w.ticket k = some ticket ∧ ticket.status ≠ .purchased
  refunds : ∀ flight ∈ w.pending, ∀ amount restoreStatus,
    flight.item.refund = some (k, amount, restoreStatus) → restoreStatus ≠ some .purchased

section Step

variable {host : Host} {w w' : World} {l : Label} {k : String}

/-- The callback of a refund that is sent restores the status the ticket had. -/
theorem TillEffect.refund_restores {env : Env} {s : Contract} {c : Call} {t t' : Till}
    {ps : List Promise} (h : TillEffect env s c t ps t') {p : Promise} (hp : p ∈ ps)
    {amount : Nat} {restoreStatus : Option TicketStatus}
    (hrefund : p.refund = some (k, amount, restoreStatus)) :
    ∃ ticket, t.tickets.get k = some ticket ∧ restoreStatus = some ticket.status := by
  have hsome : p.refund ≠ none := by
    rw [hrefund]
    exact Option.some_ne_none _
  cases h with
  | batch => cases hp
  | once hstep =>
    cases hstep with
    | quiet _ hps => exact absurd (Promise.refund_of_not_usdc (hps p hp)) hsome
    | @ticket _ k' _ new flow _ hget hticket _ =>
      cases flow with
      | payOut receiverId status =>
        obtain rfl := List.mem_singleton.mp hp
        obtain ⟨rfl, -, hrestore⟩ : k' = k ∧ new.grossUsdcMicro = amount ∧
            some status = restoreStatus := by
          simpa [Promise.refund, Promise.callback] using hrefund
        subst hrestore
        cases hticket with
        | refundStarted => exact ⟨_, hget, rfl⟩
      | still | deposit | reference | payBack | settle => cases hp
    | withdrawn _ hcallback =>
      obtain rfl := List.mem_singleton.mp hp
      exact absurd (Promise.refund_of_pot hcallback) hsome
    | vatKeyRevoked | jobFee | withdrawalFinished | withdrawalRestored => cases hp

/-- A refund callback is delivered by a receipt that carries it. -/
theorem TicketChange.refund_flight {ctx : Context} {receiverId : AccountId} {amount : Nat}
    {restoreStatus : Option TicketStatus} {new : Ticket} {flow : Flow}
    (h : TicketChange host w l w' k ctx (.callback (.onTicketRefund k receiverId amount
      restoreStatus)) new flow) :
    ∃ flight ∈ w.pending, flight.item.refund = some (k, amount, restoreStatus) := by
  obtain ⟨rest, hdelivery⟩ := h.delivery
  obtain ⟨o, hrun, -⟩ := h.ran
  obtain ⟨i, promise, ok, hget, hcallback, -, -⟩ := hdelivery.callback_inv hrun
  refine ⟨_, List.mem_of_getElem? hget, ?_⟩
  rw [Promise.refund, hcallback]

theorem Played.step (hsound : w.Sound) (h : Played k w) (hstep : worldStep host w l w') :
    Played k w' := by
  obtain ⟨ticket, hticket, hstatus⟩ := h.ticket
  refine ⟨?_, ?_⟩
  · rcases hsound.ticket_cases hstep k with hsame | ⟨ctx, c, new, flow, hchange⟩
    · exact ⟨ticket, hsame.trans hticket, hstatus⟩
    · have hmade := hchange.step
      rw [hticket] at hmade
      refine ⟨new, hchange.ticket, ?_⟩
      cases hmade with
      | watched hpurchased => exact absurd hpurchased hstatus
      | refundStarted => exact fun hnew => nomatch hnew
      | released => exact fun hnew => nomatch hnew
      | voided => exact fun hnew => nomatch hnew
      | deviceAdded _ _ hevicted _ =>
        intro hnew
        exact hstatus ((evictOldest_ok hevicted).2 ▸ hnew)
      | deviceRevoked => exact hstatus
      | refundFinished => exact hstatus
      | @refundRestored _ receiverId amount restoreStatus _ hresult =>
        -- the failed refund restores what the ticket was when it started
        obtain ⟨flight, hflight, hrefund⟩ := hchange.refund_flight
        have hnot := h.refunds flight hflight amount restoreStatus hrefund
        obtain ⟨_, _, hof⟩ := hsound.books.refunds flight.item (List.mem_map_of_mem hflight)
          k amount restoreStatus hrefund
        rcases hof.restore with hrestore | hrestore
        · exact absurd hrestore hnot
        · rw [hrestore]
          exact fun hnew => nomatch hnew
  · intro flight hflight amount restoreStatus hrefund
    rcases World.flight_cases hstep hflight with
      hold | ⟨i, ok, -, hget, -⟩ | ⟨ctx, c, rest, o, -, -, hrun, -, -, hsent, -⟩
    · exact h.refunds flight hold amount restoreStatus hrefund
    · exact h.refunds _ (List.mem_of_getElem? hget) amount restoreStatus hrefund
    · obtain ⟨old, hold, rfl⟩ :=
        ((Call.run_effect hrun).till hsound.books.keyed).refund_restores hsent hrefund
      obtain rfl := Option.some.inj (hticket.symm.trans hold)
      exact fun hpurchased => hstatus (Option.some.inj hpurchased)

/-- A ticket in one of the statuses after `purchased` has no refund out. -/
theorem World.Sound.played (hsound : w.Sound) {ticket : Ticket} (hticket : w.ticket k = some ticket)
    (hpurchased : ticket.status ≠ .purchased) (hrefunded : ticket.status ≠ .refunded) :
    Played k w := by
  refine ⟨⟨ticket, hticket, hpurchased⟩, fun flight hflight amount restoreStatus hrefund => ?_⟩
  obtain ⟨other, hother, hof⟩ := hsound.books.refunds flight.item (List.mem_map_of_mem hflight)
    k amount restoreStatus hrefund
  obtain rfl := Option.some.inj (hticket.symm.trans hother)
  exact absurd hof.status hrefunded

end Step

section Later

variable {host : Host} {w w' : World} {k : String}

theorem Played.later (hsound : w.Sound) (h : Played k w) (hlater : w.Later host w') :
    Played k w' := by
  obtain ⟨tr, htr⟩ := hlater
  refine (htr.invariant (I := fun w => w.Sound ∧ Played k w) ?_ ⟨hsound, h⟩).2
  exact fun _ _ _ hs hst => ⟨hs.1.step hst, hs.2.step hs.1 hst⟩

theorem Settled.later {e : Settlement} (hsound : w.Sound) (h : Settled k e w)
    (hlater : w.Later host w') : Settled k e w' := by
  obtain ⟨tr, htr⟩ := hlater
  refine (htr.invariant (I := fun w => w.Sound ∧ Settled k e w) ?_ ⟨hsound, h⟩).2
  exact fun _ _ _ hs hst => ⟨hs.1.step hst, hs.2.step hs.1 hst⟩

theorem World.Sound.later (hsound : w.Sound) (hlater : w.Later host w') : w'.Sound := by
  obtain ⟨tr, htr⟩ := hlater
  exact htr.invariant (fun _ _ _ hs hst => hs.step hst) hsound

/-- The terms of a ticket stay. -/
theorem World.Sound.terms_later (hsound : w.Sound) (hlater : w.Later host w') {ticket : Ticket}
    (hticket : w.ticket k = some ticket) :
    ∃ ticket', w'.ticket k = some ticket' ∧ ticket'.terms = ticket.terms := by
  obtain ⟨tr, htr⟩ := hlater
  exact hsound.terms_trace htr hticket

theorem takenDown_iff {s : Contract} {id : String} : takenDown s id = true ↔
    ∃ publication, s.publications.get id = some publication ∧
      publication.availability = .takedown := by
  simp only [takenDown, Option.any_eq_true, decide_eq_true_eq]

theorem takenDown_later {w₀ : World} (h₀ : Initial host w₀) (hreached : w₀.Later host w)
    (hlater : w.Later host w') {id : String} (h : takenDown w.contract id = true) :
    takenDown w'.contract id = true := by
  obtain ⟨tr₀, htr₀⟩ := hreached
  obtain ⟨tr, htr⟩ := hlater
  obtain ⟨publication, hget, hdown⟩ := takenDown_iff.mp h
  obtain ⟨availability, hkept, hstays⟩ :=
    (catalog_kept (catalog_sound h₀ htr₀) htr).publication id publication hget
  exact takenDown_iff.mpr ⟨_, hkept, hstays hdown⟩

end Later

end Youtick.MarketV2
