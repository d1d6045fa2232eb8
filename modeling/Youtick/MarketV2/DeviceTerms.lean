import Youtick.MarketV2.Devices

/-!
# Market V2: how long a device is authorized

Every device of a stored ticket expires a fixed lifetime after its authorization, whichever call
authorized it. So the devices of a ticket, in their order, expire in that order too.
-/

set_option autoImplicit false

namespace Youtick.MarketV2

open Youtick.Lib

/-- Each of these devices expires a lifetime after its authorization. -/
def DevicesTimed (devices : List TicketDevice) : Prop :=
  ∀ device ∈ devices, device.expiresAtMs = device.authorizedAtMs + playbackDeviceLifetimeMs

theorem DevicesTimed.sublist {devices kept : List TicketDevice} (h : DevicesTimed devices)
    (hsub : kept.Sublist devices) : DevicesTimed kept :=
  fun device hdevice => h device (hsub.subset hdevice)

section Sales

variable {env : Env} {s : Contract} {k : String} {new : Ticket}

theorem newTicketDevice_timed {key certificate : String} {device : TicketDevice}
    (h : newTicketDevice env key certificate = .ok device) :
    device.expiresAtMs = device.authorizedAtMs + playbackDeviceLifetimeMs := by
  obtain rfl := newTicketDevice_ok h
  rfl

/-- The tickets after a call that may have sold one. -/
def MaySell (env : Env) (s : Contract) (tickets : LookupMap String Ticket) : Prop :=
  tickets = s.tickets ∨ ∃ ticket first key certificate,
    tickets = s.tickets.insert ticket.ticketId ticket ∧ ticket.devices = [first] ∧
      newTicketDevice env key certificate = .ok first

/-- A ticket that appears was just sold. -/
theorem MaySell.timed {tickets : LookupMap String Ticket} (h : MaySell env s tickets)
    (hbefore : s.tickets.get k = none) (hafter : tickets.get k = some new) :
    DevicesTimed new.devices := by
  rcases h with rfl | ⟨ticket, first, key, certificate, rfl, hdevices, hfirst⟩
  · cases hbefore.symm.trans hafter
  · rw [LookupMap.get_insert] at hafter
    split at hafter
    · cases hafter
      rw [hdevices]
      intro device hdevice
      obtain rfl := List.mem_singleton.mp hdevice
      exact newTicketDevice_timed hfirst
    · cases hbefore.symm.trans hafter

theorem buyTicketV2_sells {amount : Nat} {purchase : PurchaseMessageV2} {o : Outcome Nat}
    (h : buyTicketV2 env s amount purchase = .ok o) : MaySell env s o.state.tickets := by
  simp only [buyTicketV2, bind_eq_ok] at h
  obtain ⟨-, -, -, -, key, -, _, -, -, -, _, -, _, -, vat, -, version, -, h⟩ := h
  rcases ite_eq_ok.mp h with ⟨-, h⟩ | ⟨-, h⟩
  · cases pure_eq_ok.mp h
    exact .inl rfl
  · simp only [bind_eq_ok, expect_eq_ok] at h
    obtain ⟨publication, -, h⟩ := h
    rcases ite_eq_ok.mp h with ⟨-, h⟩ | ⟨-, h⟩
    · cases pure_eq_ok.mp h
      exact .inl rfl
    · simp only [bind_eq_ok, checkedAdd_eq_ok, pure_eq_ok] at h
      obtain ⟨_, -, _, -, -, -, _, -, -, -, _, -, -, -, split, -, first, hfirst, _, ⟨-, rfl⟩, -, -,
        _, -, rfl⟩ := h
      exact .inr ⟨cryptoTicket env _ purchase publication.creatorId amount split version first, first,
        _, _, rfl, rfl, hfirst⟩

/-- An upload that is paid for touches no ticket. -/
theorem acceptPaidJob_tickets {senderId : AccountId} {amount fee : Nat} {request : PaidJobRequest}
    {quote : Option SponsoredUploadQuote} {session : Option PlaybackSessionAuthorization}
    {o : Outcome Nat} (h : acceptPaidJob env s senderId amount request quote fee session = .ok o) :
    o.state.tickets = s.tickets := by
  simp only [acceptPaidJob, bind_eq_ok, checkedAdd_eq_ok, pure_eq_ok] at h
  obtain ⟨admitted, hadmit, created, hcreate, _, ⟨-, rfl⟩, state, hdevice, -, -, rfl⟩ := h
  obtain ⟨uploads, rfl⟩ := admitJob_ok hadmit
  obtain ⟨-, -, hstate, -⟩ := createUsdcPaidJob_ok hcreate
  obtain ⟨uploads', rfl⟩ := authorizePlaybackDevice_ok hdevice
  rw [hstate]

theorem payForJob_tickets {senderId : AccountId} {amount : Nat} {message : TransferMessage}
    {o : Outcome Nat} (h : payForJob env s senderId amount message = .ok o) :
    o.state.tickets = s.tickets := by
  simp only [payForJob, bind_eq_ok] at h
  obtain ⟨⟨request, uploadFee⟩, -, h⟩ := h
  dsimp only at h
  obtain ⟨quote, -, h⟩ := h
  rcases ite_eq_ok.mp h with ⟨-, h⟩ | ⟨-, h⟩
  · cases pure_eq_ok.mp h
    rfl
  rcases ite_eq_ok.mp h with ⟨-, h⟩ | ⟨-, h⟩
  · cases pure_eq_ok.mp h
    rfl
  simp only [bind_eq_ok, require_eq_ok] at h
  obtain ⟨-, -, h⟩ := h
  split at h
  · simp only [bind_eq_ok, pure_eq_ok] at h
    obtain ⟨-, -, -, -, rfl⟩ := h
    rfl
  · rcases ite_eq_ok.mp h with ⟨-, h⟩ | ⟨-, h⟩
    · cases pure_eq_ok.mp h
      rfl
    · exact acceptPaidJob_tickets h

theorem ftOnTransfer_sells {senderId : AccountId} {amount : Nat} {msg : String} {o : Outcome Nat}
    (h : ftOnTransfer env s senderId amount msg = .ok o) : MaySell env s o.state.tickets := by
  simp only [ftOnTransfer, bind_eq_ok, require_eq_ok] at h
  obtain ⟨_, -, -, -, h⟩ := h
  rcases ite_eq_ok.mp h with ⟨-, h⟩ | ⟨-, h⟩
  · simp only [bind_eq_ok] at h
    obtain ⟨purchase, -, h⟩ := h
    exact buyTicketV2_sells h
  · simp only [bind_eq_ok] at h
    obtain ⟨message, -, -, -, h⟩ := h
    rcases ite_eq_ok.mp h with ⟨-, h⟩ | ⟨-, h⟩
    · exact .inl (payForJob_tickets h)
    · exact (error_eq_ok.mp h).elim

theorem issueCardTicket_sells
    {ticketPublicKey publicationId hmac grossMinor currency : String} {device : SignedTicketDevice}
    {o : Outcome Ticket}
    (h : issueCardTicket env s ticketPublicKey publicationId device hmac grossMinor currency =
      .ok o) : MaySell env s o.state.tickets := by
  simp only [issueCardTicket, bind_eq_ok, expect_eq_ok, require_eq_ok, pure_eq_ok] at h
  obtain ⟨-, -, -, -, -, -, -, -, -, -, key, -, _, -, -, -, -, -, gross, -, -, -, -, -, _, -,
    publication, -, -, -, -, -, -, -, _, -, _, -, -, -, _, -, first, hfirst, -, -, rfl⟩ := h
  exact .inr ⟨cardTicket env (hexSha256 env.toHost key) ticketPublicKey publicationId
    publication.creatorId first ⟨hmac, gross, currency⟩, first, _, _, rfl, rfl, hfirst⟩

end Sales

/-! ## Runs -/

section World

variable {host : Host} {w w' : World} {l : Label} {k : String}

/-- Every stored ticket's devices are timed. -/
def World.DevicesTimed (w : World) : Prop :=
  ∀ k ticket, w.ticket k = some ticket → MarketV2.DevicesTimed ticket.devices

theorem Initial.devicesTimed (h : Initial host w) : w.DevicesTimed := by
  intro k ticket hticket
  simp [World.ticket, h.fresh.1.tickets] at hticket

/-- A call that changed a ticket left it with timed devices. -/
theorem TicketChange.devicesTimed {ctx : Context} {c : Call} {new : Ticket} {flow : Flow}
    (h : TicketChange host w l w' k ctx c new flow)
    (hfew : ∀ old, w.ticket k = some old → old.devices.length ≤ maxTicketDevices)
    (hbefore : ∀ old, w.ticket k = some old → MarketV2.DevicesTimed old.devices) :
    MarketV2.DevicesTimed new.devices := by
  have hstep := h.step
  obtain ⟨o, hrun, hstate⟩ := h.ran
  have hafter : o.state.tickets.get k = some new := by
    rw [← hstate]
    exact h.ticket
  obtain ⟨_, -, hbody⟩ := bind_eq_ok.mp hrun
  have hkept : ∀ {old : Ticket}, w.ticket k = some old → ∀ {kept : List TicketDevice},
      kept.Sublist old.devices → MarketV2.DevicesTimed kept := fun hold _ hsub =>
    (hbefore _ hold).sublist hsub
  generalize hold : w.ticket k = old at hstep
  cases hstep with
  | sold =>
    obtain ⟨_, hsold, hvoid⟩ := bind_eq_ok.mp hbody
    obtain rfl := pure_eq_ok.mp hvoid
    exact (ftOnTransfer_sells hsold).timed hold hafter
  | issued =>
    obtain ⟨_, hissued, hvoid⟩ := bind_eq_ok.mp hbody
    obtain rfl := pure_eq_ok.mp hvoid
    exact (issueCardTicket_sells hissued).timed hold hafter
  | @deviceAdded _ key _ _ _ _ ticket evicted _ device _ _ hevicted hdevice =>
    obtain ⟨hsub, -, -⟩ := evicted_devices hevicted (hfew ticket hold)
    intro other hother
    rcases List.mem_append.mp hother with hother | hother
    · exact hkept hold (hsub.trans (keptDevices_sublist _ ticket key)) other hother
    · obtain rfl := List.mem_singleton.mp hother
      exact newTicketDevice_timed hdevice
  | deviceRevoked _ => exact hkept hold List.filter_sublist
  | voided | refundFinished =>
    intro device hdevice
    cases hdevice
  | watched | refundStarted | released | refundRestored => exact hkept hold (List.Sublist.refl _)

theorem World.DevicesTimed.step (hs : w.DevicesSound) (ht : w.DevicesTimed)
    (h : worldStep host w l w') : w'.DevicesTimed := by
  intro k ticket hget
  rcases hs.ticket_cases h k with hsame | ⟨ctx, c, new, flow, hchange⟩
  · exact ht k ticket (hsame.symm.trans hget)
  · obtain rfl := Option.some.inj (hchange.ticket.symm.trans hget)
    exact hchange.devicesTimed (fun old hold => (hs.devices k old hold).few)
      (fun old hold => ht k old hold)

end World

end Youtick.MarketV2
