import Youtick.MarketV2.TicketRuns

/-!
# Market V2: the life of a ticket

Three events settle a ticket for good: its refund lands, its escrow is released, or its card payment
is voided. The first is an event of the ledger and leaves the storage as it is, so the run invariant
(`Settled`) remembers it through the receipts: no refund of the ticket is out that could still come
back failed. `ticket_lifecycle` collects what holds of every run.
-/

set_option autoImplicit false

namespace Youtick.MarketV2

open Youtick.Lib

/-! ## What a release credits -/

/-- The part of a ticket's gross amount a release credits to a pot. -/
def Ticket.share (ticket : Ticket) : Pot → Nat
  | .tax => ticket.vatUsdcMicro
  | .platform => ticket.platformUsdcMicro
  | .creator creatorId => if ticket.creatorId = creatorId then ticket.creatorUsdcMicro else 0

section Release

variable {env : Env} {s : Contract} {t t' : Till} {ids : List String}

theorem Till.balance_credit (t : Till) (pot other : Pot) (amount : Nat) :
    (t.credit pot amount).balance other = t.balance other + if other = pot then amount else 0 := by
  cases pot with
  | creator creatorId =>
    cases other with
    | creator otherId =>
      simp only [Till.credit, Till.setBalance, Till.balance, LookupMap.get_insert,
        Pot.creator.injEq]
      split
      · next h => simp [h]
      · rfl
    | platform | tax => rfl
  | platform => cases other <;> rfl
  | tax => cases other <;> rfl

theorem Flow.settle_balance (ticket : Ticket) (t : Till) (pot : Pot) :
    (Flow.apply ticket t .settle).balance pot = t.balance pot + ticket.share pot := by
  simp only [Flow.apply, Till.balance_credit]
  cases pot with
  | creator creatorId => simp [Ticket.share, Till.balance, eq_comm]
  | platform => simp [Ticket.share, Till.balance]
  | tax => simp [Ticket.share, Till.balance]

theorem Flow.settle_escrow (ticket : Ticket) (t : Till) :
    (Flow.apply ticket t .settle).escrowBalance = t.escrowBalance - ticket.grossUsdcMicro := by
  simp only [Flow.apply, Till.credit_escrow]

/-- `released` are the tickets that went from escrow to the balances between `t` and `t'`. -/
structure ReleasedBetween (env : Env) (s : Contract) (ids : List String) (t t' : Till)
    (released : List Ticket) : Prop where
  nodup : (released.map (·.ticketId)).Nodup
  due : ∀ ticket ∈ released, ticket.ticketId ∈ ids ∧ ReleaseDue env s ticket ∧
    t.tickets.get ticket.ticketId = some ticket ∧
      t'.tickets.get ticket.ticketId = some { ticket with status := .released }
  others : ∀ k, k ∉ released.map (·.ticketId) → t'.tickets.get k = t.tickets.get k
  escrow : t'.escrowBalance + (released.map (·.grossUsdcMicro)).sum = t.escrowBalance
  balances : ∀ pot, t'.balance pot = t.balance pot + (released.map (·.share pot)).sum

theorem ReleasedBetween.nil : ReleasedBetween env s ids t t [] where
  nodup := List.nodup_nil
  due := by simp
  others := fun _ _ => rfl
  escrow := rfl
  balances := fun _ => rfl

/-- A ticket that is released later is stored unchanged until then. -/
theorem ReleasedBetween.get_due {mid : Till} {released : List Ticket}
    (h : ReleasedBetween env s ids t mid released) {k : String} {ticket : Ticket}
    (hget : mid.tickets.get k = some ticket) (hdue : ReleaseDue env s ticket) :
    k ∉ released.map (·.ticketId) ∧ t.tickets.get k = some ticket := by
  have hfresh : k ∉ released.map (·.ticketId) := by
    intro hmem
    obtain ⟨old, hold, rfl⟩ := List.mem_map.mp hmem
    obtain ⟨-, -, -, hmid⟩ := h.due old hold
    obtain rfl := Option.some.inj (hmid.symm.trans hget)
    rcases hdue.1.2 with hstatus | hstatus <;> cases hstatus
  exact ⟨hfresh, (h.others k hfresh).symm.trans hget⟩

theorem ReleasedBetween.step {mid : Till} {released : List Ticket} (hkeyed : t.Keyed)
    (h : ReleasedBetween env s ids t mid released)
    (hstep : TillStep env s (.releaseExpired ids) mid [] t') :
    ∃ released', ReleasedBetween env s ids t t' released' := by
  generalize hps : ([] : List Promise) = ps at hstep
  generalize hc : Call.releaseExpired ids = c at hstep
  cases hstep with
  | quiet => exact ⟨released, h⟩
  | @ticket _ k old new flow _ hget hticket hcovered =>
    subst hc hget
    obtain ⟨ticket, hold, rfl, rfl, hmem, hdue⟩ := hticket.release_inv
    obtain ⟨hfresh, hstart⟩ := h.get_due hold hdue
    obtain rfl : ticket.ticketId = k := hkeyed k ticket hstart
    refine ⟨ticket :: released, ?_, ?_, ?_, ?_, ?_⟩
    · exact List.nodup_cons.mpr ⟨hfresh, h.nodup⟩
    · intro other hother
      rw [Flow.apply_tickets]
      rcases List.mem_cons.mp hother with rfl | hother
      · exact ⟨hmem, hdue, hstart, LookupMap.get_insert_self _ _ _⟩
      · obtain ⟨hin, hotherdue, hotherstart, hothermid⟩ := h.due other hother
        refine ⟨hin, hotherdue, hotherstart, ?_⟩
        have hne : other.ticketId ≠ ticket.ticketId := by
          intro heq
          exact hfresh (heq ▸ List.mem_map_of_mem hother)
        exact (LookupMap.get_insert_of_ne _ _ hne).trans hothermid
    · intro k hk
      rw [List.map_cons, List.mem_cons, not_or] at hk
      rw [Flow.apply_tickets]
      exact (LookupMap.get_insert_of_ne _ _ hk.1).trans (h.others k hk.2)
    · have hbefore := h.escrow
      have hescrow : ticket.grossUsdcMicro ≤ mid.escrowBalance := hcovered
      simp only [Flow.settle_escrow, List.map_cons, List.sum_cons]
      omega
    · intro pot
      rw [Flow.settle_balance, List.map_cons, List.sum_cons]
      have hbefore := h.balances pot
      simp only [Till.balance, Ticket.share] at hbefore ⊢
      omega
  | vatKeyRevoked | jobFee | withdrawalFinished | withdrawalRestored => cases hc
  | withdrawn => cases hps

theorem ReleaseRun.between (hkeyed : t.Keyed) (h : ReleaseRun env s ids t t') :
    ∃ released, ReleasedBetween env s ids t t' released := by
  induction h with
  | refl => exact ⟨[], .nil⟩
  | tail _ hstep ih =>
    obtain ⟨released, hmid⟩ := ih
    exact hmid.step hkeyed hstep

end Release

/-! ## Settlements -/

/-- The events after which a ticket stays as it is. -/
inductive Settlement where
  | refund
  | release
  | void
  deriving DecidableEq

def Settlement.status : Settlement → TicketStatus
  | .refund => .refunded
  | .release => .released
  | .void => .voided

theorem Settlement.terminal (e : Settlement) : e.status.Terminal := by
  cases e with
  | refund => exact .inl rfl
  | release => exact .inr (.inl rfl)
  | void => exact .inr (.inr rfl)

def World.status (w : World) (k : String) : Option TicketStatus := (w.ticket k).map (·.status)

/-- A refund transfer of the ticket under `k` succeeded. -/
def RefundLanded (k : String) (x : Transition World Label) : Prop :=
  match x.label with
  | .land i true => (x.pre.pending[i]?).bind (fun flight => flight.item.refundedTicket) = some k
  | _ => False

instance (k : String) (x : Transition World Label) : Decidable (RefundLanded k x) := by
  unfold RefundLanded
  split <;> infer_instance

/-- The ticket under `k` took the status. -/
def Became (k : String) (status : TicketStatus) (x : Transition World Label) : Prop :=
  x.pre.status k ≠ some status ∧ x.post.status k = some status

instance (k : String) (status : TicketStatus) (x : Transition World Label) :
    Decidable (Became k status x) :=
  inferInstanceAs (Decidable (_ ∧ _))

/-- What a transition settled the ticket under `k` by. -/
def settlement (k : String) (x : Transition World Label) : Option Settlement :=
  if RefundLanded k x then some .refund
  else if Became k .released x then some .release
  else if Became k .voided x then some .void
  else none

def settlements (k : String) (tr : List (Transition World Label)) : List Settlement :=
  tr.filterMap (settlement k)

section World

variable {host : Host} {w w' : World} {l : Label} {k : String} {e : Settlement}

/-- The ticket under `k` was settled by `e`: no refund of it can still fail. -/
structure Settled (k : String) (e : Settlement) (w : World) : Prop where
  status : w.status k = some e.status
  refunds : ∀ flight ∈ w.pending, flight.item.refundedTicket = some k → flight.result = some true

theorem Settled.ticket (h : Settled k e w) :
    ∃ ticket, w.ticket k = some ticket ∧ ticket.status = e.status :=
  Option.map_eq_some_iff.mp h.status

/-- A refund that is out belongs to a refunded ticket. -/
theorem World.Sound.refunded (hsound : w.Sound) {p : Promise} (hp : p ∈ w.pending.items)
    (htag : p.refundedTicket = some k) :
    ∃ ticket amount restoreStatus, p.refund = some (k, amount, restoreStatus) ∧
      w.ticket k = some ticket ∧ RefundOf ticket amount restoreStatus := by
  obtain ⟨⟨k', amount, restoreStatus⟩, hrefund, rfl⟩ := Option.map_eq_some_iff.mp htag
  obtain ⟨ticket, hticket, hof⟩ := hsound.books.refunds p hp _ _ _ hrefund
  exact ⟨ticket, amount, restoreStatus, hrefund, hticket, hof⟩

theorem World.Sound.status_refunded (hsound : w.Sound) {p : Promise} (hp : p ∈ w.pending.items)
    (htag : p.refundedTicket = some k) : w.status k = some .refunded := by
  obtain ⟨ticket, _, _, -, hticket, hof⟩ := hsound.refunded hp htag
  rw [World.status, hticket, Option.map_some, hof.status]

theorem RefundLanded.flight (hstep : worldStep host w l w') (h : RefundLanded k ⟨w, l, w'⟩) :
    ∃ i promise, l = .land i true ∧ w.pending[i]? = some ⟨promise, none⟩ ∧
      promise.refundedTicket = some k ∧
      w' = { w with pending := w.pending.land i promise true } := by
  unfold RefundLanded at h
  split at h
  · next i hl =>
      dsimp only at h hl
      subst hl
      obtain ⟨flight, hflight, htag⟩ := Option.bind_eq_some_iff.mp h
      cases World.step_cases hstep with
      | landed hget _ =>
        obtain rfl := Option.some.inj (hget.symm.trans hflight)
        exact ⟨i, _, rfl, hget, htag, rfl⟩
      | dropped hget _ hcallback =>
        obtain rfl := Option.some.inj (hget.symm.trans hflight)
        rw [Promise.refundedTicket, Promise.refund, hcallback] at htag
        cases htag
      | ran hdelivery => cases hdelivery
      | panicked hdelivery => cases hdelivery
  · exact h.elim

/-- Nothing unsettles a settled ticket. -/
theorem Settled.step (hsound : w.Sound) (h : Settled k e w) (hstep : worldStep host w l w') :
    Settled k e w' := by
  obtain ⟨ticket, hticket, hstatus⟩ := h.ticket
  have hterminal : ticket.status.Terminal := hstatus ▸ e.terminal
  refine ⟨?_, ?_⟩
  · rcases hsound.ticket_cases hstep k with hsame | ⟨ctx, c, new, flow, hchange⟩
    · rw [World.status, hsame]
      exact h.status
    · have hticketStep := hchange.step
      rw [hticket] at hticketStep
      have hkept : new.status = ticket.status := by
        refine hticketStep.terminal hterminal ?_
        rintro receiverId amount restoreStatus rfl hfailed
        obtain ⟨promise, hflight, htag⟩ := hchange.failed_refund hfailed
        cases h.refunds _ hflight htag
      rw [World.status, hchange.ticket, Option.map_some, hkept, hstatus]
  · intro flight hflight htag
    rcases World.flight_cases hstep hflight with
      hold | ⟨i, ok, -, hget, -⟩ | ⟨ctx, c, rest, o, -, -, hrun, -, -, hsent, -⟩
    · exact h.refunds flight hold htag
    · cases h.refunds _ (List.mem_of_getElem? hget) htag
    · obtain ⟨new, receiverId, status, hstart⟩ :=
        ((Call.run_effect hrun).till hsound.books.keyed).refund_sent hsent htag
      obtain ⟨-, old, hold, hescrow⟩ := hstart.payOut
      obtain rfl := Option.some.inj (hold.symm.trans hticket)
      rcases hescrow.2 with hs | hs <;> simp [TicketStatus.Terminal, hs] at hterminal

/-- A settled ticket is not settled again. -/
theorem Settled.settlement_none (h : Settled k e w) (h' : Settled k e w')
    (hstep : worldStep host w l w') : settlement k ⟨w, l, w'⟩ = none := by
  have hlanded : ¬ RefundLanded k ⟨w, l, w'⟩ := by
    intro hlanded
    obtain ⟨i, promise, -, hget, htag, -⟩ := hlanded.flight hstep
    cases h.refunds _ (List.mem_of_getElem? hget) htag
  have hbecame : ∀ status, ¬ Became k status ⟨w, l, w'⟩ := by
    rintro status ⟨hpre, hpost⟩
    exact hpre (h.status.trans (h'.status.symm.trans hpost))
  rw [settlement, if_neg hlanded, if_neg (hbecame _), if_neg (hbecame _)]

/-- At most one refund of a ticket is out: with another flight in its place, that one. -/
theorem World.Sound.refund_unique (hsound : w.Sound) {i : Nat} {x y flight : Flight Promise}
    (hget : w.pending[i]? = some x) (htag : x.item.refundedTicket = some k)
    (hflight : flight ∈ w.pending.set i y) (hsame : flight.item.refundedTicket = some k) :
    flight = y := by
  obtain ⟨a, b, hpending, -, hset⟩ := Outbox.exists_split hget
  have honce := hsound.books.once
  rw [hpending, Outbox.items, List.map_append, List.map_cons, List.filterMap_append,
    List.filterMap_cons, htag] at honce
  obtain ⟨-, hb, hab⟩ := List.nodup_append.mp honce
  have hmem : ∀ c : Outbox Promise, flight ∈ c →
      k ∈ (c.map (·.item)).filterMap Promise.refundedTicket := fun c hc =>
    List.mem_filterMap.mpr ⟨flight.item, List.mem_map_of_mem hc, hsame⟩
  rw [hset] at hflight
  rcases List.mem_append.mp hflight with hin | hin
  · exact absurd rfl (hab k (hmem a hin) k List.mem_cons_self)
  · rcases List.mem_cons.mp hin with rfl | hin
    · rfl
    · exact absurd (hmem b hin) (List.nodup_cons.mp hb).1

/-- A settlement settles the ticket. -/
theorem settled_of_settlement (hsound : w.Sound) (hstep : worldStep host w l w')
    (h : settlement k ⟨w, l, w'⟩ = some e) : Settled k e w' := by
  have hsound' := hsound.step hstep
  have hbecame : ∀ e : Settlement, e.status ≠ .refunded → Became k e.status ⟨w, l, w'⟩ →
      Settled k e w' := by
    intro e hne hbecame
    refine ⟨hbecame.2, fun flight hflight htag => ?_⟩
    have hrefunded := hsound'.status_refunded (List.mem_map_of_mem hflight) htag
    exact absurd (Option.some.inj (hbecame.2.symm.trans hrefunded)) hne
  unfold settlement at h
  split at h
  · next hlanded =>
      obtain rfl := Option.some.inj h
      obtain ⟨i, promise, rfl, hget, htag, rfl⟩ := hlanded.flight hstep
      refine ⟨hsound.status_refunded (Outbox.item_mem hget) htag, fun flight hflight hsame => ?_⟩
      rw [hsound.refund_unique hget htag hflight hsame]
  · split at h
    · next hreleased =>
        obtain rfl := Option.some.inj h
        exact hbecame .release (by decide) hreleased
    · split at h
      · next hvoided =>
          obtain rfl := Option.some.inj h
          exact hbecame .void (by decide) hvoided
      · cases h

/-! ## Runs -/

/-- Along a run a ticket is settled at most once, and stays settled. -/
theorem settlements_cases {w₀ : World} {tr : List (Transition World Label)} (h₀ : w₀.Sound)
    (h : Trace (worldStep host) w₀ tr w) :
    settlements k tr = [] ∨ ∃ e, settlements k tr = [e] ∧ Settled k e w := by
  induction h with
  | nil => exact .inl rfl
  | @snoc tr s l t htr hstep ih =>
    have hsound : s.Sound := htr.invariant (fun _ _ _ hs hst => hs.step hst) h₀
    have hsnoc : settlements k (tr ++ [⟨s, l, t⟩]) =
        settlements k tr ++ (settlement k ⟨s, l, t⟩).toList := by
      rw [settlements, List.filterMap_append]
      cases hx : settlement k ⟨s, l, t⟩ <;> simp [settlements, hx]
    rw [hsnoc]
    rcases ih with hnone | ⟨e, hone, hsettled⟩
    · rw [hnone]
      cases hx : settlement k ⟨s, l, t⟩ with
      | none => exact .inl rfl
      | some e => exact .inr ⟨e, rfl, settled_of_settlement hsound hstep hx⟩
    · have hsettled' := hsettled.step hsound hstep
      rw [hone, hsettled.settlement_none hsettled' hstep]
      exact .inr ⟨e, rfl, hsettled'⟩

/-! ## What settles a ticket, and when -/

/-- The amounts and guards of the settlements of the ticket under `k`, and of the start of its
refund. -/
structure SettlementRules (host : Host) (k : String) (x : Transition World Label) : Prop where
  refund : settlement k x = some .refund → ∃ ticket i receiverId memo callback,
    x.pre.ticket k = some ticket ∧ ticket.rail = .crypto ∧ x.label = .land i true ∧
      x.pre.pending[i]? = some ⟨.ftTransfer receiverId ticket.grossUsdcMicro memo callback, none⟩
  release : settlement k x = some .release → ∃ ctx ids released ticket,
    x.label = .call ctx (.releaseExpired ids) ∧
      ReleasedBetween ⟨host, ctx⟩ x.pre.contract ids x.pre.contract.toTill x.post.contract.toTill
        released ∧
      ticket ∈ released ∧ x.pre.ticket k = some ticket ∧ ticket.rail = .crypto ∧
      ticket.vatUsdcMicro + ticket.platformUsdcMicro + ticket.creatorUsdcMicro =
        ticket.grossUsdcMicro ∧
      ticket.purchasedAtMs + escrowReleaseMs ≤ x.post.now ∧
      takenDown x.pre.contract ticket.publicationId = false
  void : settlement k x = some .void → ∃ ticket,
    x.pre.ticket k = some ticket ∧ ticket.rail = .card
  refundStart : Became k .refunded x → ∃ ctx receiverId expiresAtMs signature ticket,
    x.label = .call ctx (.refundTicket k receiverId expiresAtMs signature) ∧
      x.pre.ticket k = some ticket ∧ ticket.InEscrow ∧
      RefundAllowed ⟨host, ctx⟩ x.pre.contract ticket ∧ x.post.now = ctx.blockTimestampMs

theorem settlement_eq_some {x : Transition World Label} (h : settlement k x = some e) :
    (e = .refund ∧ RefundLanded k x) ∨ (e ≠ .refund ∧ Became k e.status x) := by
  unfold settlement at h
  split at h
  · next hlanded => exact .inl ⟨(Option.some.inj h).symm, hlanded⟩
  · split at h
    · next hreleased =>
        obtain rfl := Option.some.inj h
        exact .inr ⟨by decide, hreleased⟩
    · split at h
      · next hvoided =>
          obtain rfl := Option.some.inj h
          exact .inr ⟨by decide, hvoided⟩
      · cases h

/-- What gives the ticket under `k` a new status. -/
inductive StatusChange (env : Env) (s : Contract) (k : String) (before : Option Ticket) :
    Call → TicketStatus → Prop where
  | live {c : Call} {status : TicketStatus} (hlive : ¬ status.Terminal) :
      StatusChange env s k before c status
  | refundStarted {ticket : Ticket} {receiverId expiresAtMs signature : String}
      (hbefore : before = some ticket) (hescrow : ticket.InEscrow)
      (hallowed : RefundAllowed env s ticket) :
      StatusChange env s k before (.refundTicket k receiverId expiresAtMs signature) .refunded
  | released {ticket : Ticket} {ids : List String} (hbefore : before = some ticket)
      (hdue : ReleaseDue env s ticket) :
      StatusChange env s k before (.releaseExpired ids) .released
  | voided {c : Call} {ticket : Ticket} (hbefore : before = some ticket)
      (hrail : ticket.rail = .card) : StatusChange env s k before c .voided

theorem TicketStep.status_change {env : Env} {s : Contract} {c : Call} {before : Option Ticket}
    {new : Ticket} {flow : Flow} (h : TicketStep env s c k before new flow)
    (hrefund : RefundDelivered c k before)
    (hnew : ∀ old, before = some old → old.status ≠ new.status) :
    StatusChange env s k before c new.status := by
  cases h with
  | sold hsale => exact .live (by simp [hsale.status, TicketStatus.Terminal])
  | issued hissue => exact .live (by simp [hissue.status, TicketStatus.Terminal])
  | @watched _ ticket status _ hstatus =>
    subst hstatus
    cases hrail : ticket.rail with
    | crypto => exact .live (by simp [TicketStatus.Terminal])
    | card => exact .live (by simp [TicketStatus.Terminal])
  | refundStarted hescrow hallowed => exact .refundStarted rfl hescrow hallowed
  | released _ hdue => exact .released rfl hdue
  | @deviceAdded _ _ _ _ _ _ ticket _ _ _ _ _ hevicted _ =>
    exact absurd (evictOldest_ok hevicted).2.symm (hnew ticket rfl)
  | @deviceRevoked _ _ _ ticket _ => exact absurd rfl (hnew ticket rfl)
  | voided hrail _ => exact .voided rfl hrail
  | @refundFinished _ _ _ _ ticket _ => exact absurd rfl (hnew ticket rfl)
  | refundRestored _ =>
    obtain ⟨_, -, hof⟩ := hrefund _ _ _ rfl
    rcases hof.restore with rfl | rfl
    · exact .live (by simp [TicketStatus.Terminal])
    · exact .live (by simp [TicketStatus.Terminal])

/-- A status that was taken was taken by a change of the ticket. -/
theorem Became.status_change {status : TicketStatus} (hsound : w.Sound)
    (hstep : worldStep host w l w') (h : Became k status ⟨w, l, w'⟩) :
    ∃ ctx c new flow, TicketChange host w l w' k ctx c new flow ∧ new.status = status ∧
      StatusChange ⟨host, ctx⟩ w.contract k (w.ticket k) c status := by
  obtain ⟨hpre, hpost⟩ := h
  rcases hsound.ticket_cases hstep k with hsame | ⟨ctx, c, new, flow, hchange⟩
  · rw [World.status, hsame] at hpost
    exact absurd hpost hpre
  · obtain ⟨rest, hdelivery⟩ := hchange.delivery
    obtain ⟨o, hrun, -⟩ := hchange.ran
    obtain rfl : new.status = status := by
      rw [World.status, hchange.ticket] at hpost
      exact Option.some.inj hpost
    refine ⟨ctx, c, new, flow, hchange, rfl, hchange.step.status_change ?_ ?_⟩
    · intro receiverId amount restoreStatus hc
      exact (hdelivery.delivered hrun hsound.books k receiverId amount restoreStatus hc).1
    · intro old hold hsame
      exact hpre (by rw [World.status, hold, Option.map_some, hsame])

theorem TicketChange.external {ctx : Context} {c : Call} {new : Ticket} {flow : Flow}
    (h : TicketChange host w l w' k ctx c new flow) (hcallback : ∀ cb, c ≠ .callback cb)
    (hmigrate : c ≠ .migrate) : l = .call ctx c := by
  obtain ⟨rest, hdelivery⟩ := h.delivery
  cases hdelivery with
  | external => rfl
  | callback => exact absurd rfl (hcallback _)
  | batch => exact absurd rfl hmigrate

/-- A release call releases a batch of tickets. -/
theorem TillEffect.released {env : Env} {s : Contract} {ids : List String} {t t' : Till}
    {ps : List Promise} (hkeyed : t.Keyed) (h : TillEffect env s (.releaseExpired ids) t ps t')
    (hchanged : t'.tickets.get k ≠ t.tickets.get k) :
    ∃ released, ReleasedBetween env s ids t t' released := by
  generalize hc : Call.releaseExpired ids = c at h
  cases h with
  | batch hrun =>
    cases hc
    exact hrun.between hkeyed
  | once hstep =>
    subst hc
    have hnil : ps = [] := by
      cases hstep with
      | quiet => exact absurd rfl hchanged
      | ticket _ hticket _ =>
        obtain ⟨-, -, -, rfl, -⟩ := hticket.release_inv
        rfl
      | withdrawn =>
        rw [Till.setBalance_tickets] at hchanged
        exact absurd rfl hchanged
    subst hnil
    exact ReleasedBetween.nil.step hkeyed hstep

theorem settlementRules (hsound : w.Sound) (hstep : worldStep host w l w') :
    SettlementRules host k ⟨w, l, w'⟩ where
  refund := by
    intro h
    rcases settlement_eq_some h with ⟨-, hlanded⟩ | ⟨hne, -⟩
    · obtain ⟨i, promise, hl, hget, htag, -⟩ := hlanded.flight hstep
      have hmem := Outbox.item_mem hget
      obtain ⟨ticket, amount, restoreStatus, hrefund, hticket, hof⟩ := hsound.refunded hmem htag
      have hmatched := hsound.matched promise hmem
      cases promise with
      | ftTransfer receiverId amount' memo callback =>
        have hamount : callback.usdc = amount' := hmatched.1
        have hcallback : callback.usdc = amount := by
          cases callback with
          | onTicketRefund =>
            cases hrefund
            rfl
          | onCreatorWithdraw | onPlatformWithdraw | onTaxWithdraw | onPlatformNearWithdraw =>
            cases hrefund
        obtain rfl : amount' = ticket.grossUsdcMicro :=
          hamount.symm.trans (hcallback.trans hof.amount.symm)
        exact ⟨ticket, i, receiverId, memo, callback, hticket, hof.rail, hl, hget⟩
      | transfer | deployContract =>
        rw [Promise.refund_of_not_usdc hmatched] at hrefund
        cases hrefund
    · exact absurd rfl hne
  release := by
    intro h
    rcases settlement_eq_some h with ⟨hne, -⟩ | ⟨-, hbecame⟩
    · cases hne
    · obtain ⟨ctx, c, new, flow, hchange, -, hkind⟩ := hbecame.status_change hsound hstep
      cases hkind with
      | live hlive => exact absurd (.inr (.inl rfl)) hlive
      | @released ticket ids hbefore hdue =>
        obtain ⟨o, hrun, hstate⟩ := hchange.ran
        have hchanged : w'.contract.tickets.get k ≠ w.contract.tickets.get k := by
          intro hsame
          have hstatus : w'.status k = w.status k := by
            rw [World.status, World.ticket, hsame]
            rfl
          exact hbecame.1 (hstatus.symm.trans hbecame.2)
        have heffect := (Call.run_effect hrun).till hsound.books.keyed
        rw [← hstate] at heffect
        obtain ⟨released, hreleased⟩ := heffect.released hsound.books.keyed hchanged
        have hmem : ticket ∈ released := by
          by_contra hnot
          refine hchanged (hreleased.others k fun hk => hnot ?_)
          obtain ⟨other, hother, rfl⟩ := List.mem_map.mp hk
          obtain ⟨-, -, hstart, -⟩ := hreleased.due other hother
          exact Option.some.inj (hstart.symm.trans hbefore) ▸ hother
        exact ⟨ctx, ids, released, ticket, hchange.external (by simp) (by simp), hreleased, hmem,
          hbefore, hdue.1.1, (hsound.books.tickets k ticket hbefore).split,
          hchange.now.symm ▸ hdue.2.1, hdue.2.2⟩
  void := by
    intro h
    rcases settlement_eq_some h with ⟨hne, -⟩ | ⟨-, hbecame⟩
    · cases hne
    · obtain ⟨ctx, c, new, flow, -, -, hkind⟩ := hbecame.status_change hsound hstep
      cases hkind with
      | live hlive => exact absurd (.inr (.inr rfl)) hlive
      | voided hbefore hrail => exact ⟨_, hbefore, hrail⟩
  refundStart := by
    intro hbecame
    obtain ⟨ctx, c, new, flow, hchange, -, hkind⟩ := hbecame.status_change hsound hstep
    cases hkind with
    | live hlive => exact absurd (.inl rfl) hlive
    | refundStarted hbefore hescrow hallowed =>
      exact ⟨ctx, _, _, _, _, hchange.external (by simp) (by simp), hbefore, hescrow, hallowed,
        hchange.now⟩

end World

/-! ## Every run -/

/-- A stored ticket keeps its terms for ever; it is settled at most once, by a refund that landed, a
release or a void, and keeps that status; each rail has its own settlements; and every settlement
and every refund pays what it should, when it may. -/
theorem ticket_lifecycle {host : Host} {w₀ w₁ w₂ : World} {tr₁ tr₂ : List (Transition World Label)}
    (h₀ : Initial host w₀) (h₁ : Trace (worldStep host) w₀ tr₁ w₁)
    (h₂ : Trace (worldStep host) w₁ tr₂ w₂) (k : String) :
    (∀ ticket, w₁.ticket k = some ticket →
      ∃ ticket', w₂.ticket k = some ticket' ∧ ticket'.terms = ticket.terms) ∧
    (settlements k (tr₁ ++ tr₂)).length ≤ 1 ∧
    (∀ e ∈ settlements k tr₁, w₂.status k = some e.status) ∧
    (∀ ticket, w₁.ticket k = some ticket →
      (ticket.rail = .card → ticket.status ≠ .refunded ∧ ticket.status ≠ .released) ∧
      (ticket.rail = .crypto → ticket.status ≠ .voided)) ∧
    ∀ x ∈ tr₁, SettlementRules host k x := by
  have hsound₁ := sound_of_trace h₀ h₁
  refine ⟨fun ticket hget => hsound₁.terms_trace h₂ hget, ?_, ?_, ?_, ?_⟩
  · rcases settlements_cases (k := k) h₀.sound (h₁.append h₂) with hnone | ⟨e, hone, -⟩
    · simp [hnone]
    · simp [hone]
  · intro e he
    rcases settlements_cases (k := k) h₀.sound h₁ with hnone | ⟨e', hone, hsettled⟩
    · rw [hnone] at he
      cases he
    · rw [hone, List.mem_singleton] at he
      subst he
      have hboth := h₂.invariant (I := fun w => w.Sound ∧ Settled k e w)
        (fun _ _ _ hw hst => ⟨hw.1.step hst, hw.2.step hw.1 hst⟩) ⟨hsound₁, hsettled⟩
      exact hboth.2.status
  · intro ticket hget
    have hallows := (hsound₁.books.tickets k ticket hget).status
    refine ⟨fun hrail => ?_, fun hrail => ?_⟩
    · rw [hrail] at hallows
      rcases hallows with hs | hs | hs <;> simp [hs]
    · rw [hrail] at hallows
      rcases hallows with hs | hs | hs | hs <;> simp [hs]
  · intro x hx
    have hpre := (h₁.invariant_mem (I := World.Sound) (fun _ _ _ hs hst => hs.step hst)
      h₀.sound hx).1
    exact settlementRules hpre (h₁.step_of_mem hx)

theorem ticket_lifecycle_refund :
    ∃ w₀ tr w, Initial Vectors.host w₀ ∧ Trace (worldStep Vectors.host) w₀ tr w ∧
      settlements Vectors.ticketId tr = [.refund] ∧
      w.status Vectors.ticketId = some .refunded := by
  have hrun : (Vectors.worldRun Vectors.host (Vectors.sale ++ Vectors.refund)).map
      (settlements Vectors.ticketId ·.1) = some [.refund] := by decide +kernel
  obtain ⟨w₀, tr, w, h₀, h, hsettled⟩ := Vectors.trace_of_worldRun hrun
  obtain ⟨-, -, hstatus, -⟩ := ticket_lifecycle h₀ h .nil Vectors.ticketId
  exact ⟨w₀, tr, w, h₀, h, hsettled, hstatus .refund (by simp [hsettled])⟩

end Youtick.MarketV2
