import Youtick.MarketV2.Lifecycle

/-!
# Market V2: the devices of a ticket

A ticket has at most three devices with different session keys, in the order they were authorized.
Every removal by a revocation or an eviction advances the device epoch, the epoch never goes back, and
a signature authorizes a device for one epoch, so a removed key comes back only on a signature made
after its removal. A ticket that was voided, or refunded for good, has no device and gets none.
-/

set_option autoImplicit false

namespace Youtick.MarketV2

open Youtick.Lib

/-! ## Device lists -/

def Ticket.keys (ticket : Ticket) : List String := ticket.devices.map (·.sessionPublicKey)

/-- A device list as it can be at time `now`. -/
structure DevicesSound (now : Nat) (devices : List TicketDevice) : Prop where
  few : devices.length ≤ maxTicketDevices
  distinct : (devices.map (·.sessionPublicKey)).Nodup
  ordered : (devices.map (·.authorizedAtMs)).Pairwise (· ≤ ·)
  past : ∀ device ∈ devices, device.authorizedAtMs ≤ now

section Lists

variable {now later : Nat} {devices kept : List TicketDevice} {device : TicketDevice}

theorem DevicesSound.nil : DevicesSound now [] where
  few := Nat.zero_le _
  distinct := List.nodup_nil
  ordered := List.Pairwise.nil
  past := by simp

theorem DevicesSound.sublist (h : DevicesSound now devices) (hsub : kept.Sublist devices)
    (hnow : now ≤ later) : DevicesSound later kept where
  few := hsub.length_le.trans h.few
  distinct := h.distinct.sublist (hsub.map _)
  ordered := h.ordered.sublist (hsub.map _)
  past := fun device hdevice => (h.past device (hsub.subset hdevice)).trans hnow

/-- A device authorized now goes to the end. -/
theorem DevicesSound.push (h : DevicesSound now devices)
    (hfew : devices.length < maxTicketDevices)
    (hfresh : device.sessionPublicKey ∉ devices.map (·.sessionPublicKey))
    (hat : device.authorizedAtMs = now) : DevicesSound now (devices ++ [device]) where
  few := by
    rw [List.length_append, List.length_singleton]
    exact hfew
  distinct := by
    rw [List.map_append, List.nodup_append]
    refine ⟨h.distinct, List.nodup_singleton _, fun a ha b hb hab => hfresh ?_⟩
    obtain rfl := List.mem_singleton.mp hb
    exact (show a = device.sessionPublicKey from hab) ▸ ha
  ordered := by
    rw [List.map_append, List.pairwise_append]
    refine ⟨h.ordered, List.pairwise_singleton _ _, fun a ha b hb => ?_⟩
    obtain ⟨old, hold, rfl⟩ := List.mem_map.mp ha
    obtain rfl := List.mem_singleton.mp hb
    exact (h.past old hold).trans (Nat.le_of_eq hat.symm)
  past := by
    intro other hother
    rcases List.mem_append.mp hother with hother | hother
    · exact h.past other hother
    · obtain rfl := List.mem_singleton.mp hother
      exact Nat.le_of_eq hat

end Lists

/-! ## One change of a ticket -/

section Step

variable {env : Env} {s : Contract} {c : Call} {k : String} {before : Option Ticket}
  {old new : Ticket} {flow : Flow} {now : Nat}

/-- The devices `add_device` keeps: those that have not expired and have another key. -/
def keptDevices (env : Env) (ticket : Ticket) (key : String) : List TicketDevice :=
  ticket.devices.filter fun device =>
    decide (device.expiresAtMs > env.blockTimestampMs) && decide (device.sessionPublicKey ≠ key)

theorem keptDevices_sublist (env : Env) (ticket : Ticket) (key : String) :
    (keptDevices env ticket key).Sublist ticket.devices :=
  List.filter_sublist

theorem key_not_kept (env : Env) (ticket : Ticket) (key : String) :
    key ∉ (keptDevices env ticket key).map (·.sessionPublicKey) := by
  intro hmem
  obtain ⟨device, hdevice, rfl⟩ := List.mem_map.mp hmem
  have := (List.mem_filter.mp hdevice).2
  simp at this

/-- What `add_device` makes of the devices it keeps: it drops the oldest of three. -/
theorem evicted_devices {key : String} {evicted : Ticket} {events : List Event}
    (h : evictOldest k { old with devices := keptDevices env old key } = .ok (evicted, events))
    (hfew : old.devices.length ≤ maxTicketDevices) :
    evicted.devices.Sublist (keptDevices env old key) ∧
      evicted.devices.length < maxTicketDevices ∧ old.deviceEpoch ≤ evicted.deviceEpoch := by
  rcases evictOldest_cases h with ⟨oldest, rest, hdevices, hfull, rfl⟩ | ⟨hfew', rfl⟩
  · refine ⟨?_, ?_, Nat.le_succ _⟩
    · rw [show keptDevices env old key = oldest :: rest from hdevices]
      exact List.sublist_cons_self _ _
    · simp only
      omega
  · refine ⟨List.Sublist.refl _, ?_, Nat.le_refl _⟩
    have := (keptDevices_sublist env old key).length_le
    simp only at hfew' ⊢
    omega

theorem TicketStep.devices (h : TicketStep env s c k before new flow)
    (hbefore : ∀ old, before = some old → DevicesSound now old.devices)
    (hnow : now ≤ env.blockTimestampMs) : DevicesSound env.blockTimestampMs new.devices := by
  have hkept : ∀ {old : Ticket}, before = some old → ∀ {kept : List TicketDevice},
      kept.Sublist old.devices → DevicesSound env.blockTimestampMs kept := fun hold _ hsub =>
    (hbefore _ hold).sublist hsub hnow
  have hone : ∀ {device : TicketDevice}, device.authorizedAtMs = env.blockTimestampMs →
      DevicesSound env.blockTimestampMs [device] := fun hat =>
    DevicesSound.nil.push (by decide) (by simp) hat
  cases h with
  | sold hsale =>
    obtain ⟨device, hdevices, hat⟩ := hsale.device
    exact hdevices ▸ hone hat
  | issued hissue =>
    obtain ⟨device, hdevices, hat⟩ := hissue.device
    exact hdevices ▸ hone hat
  | @deviceAdded _ key certificate _ _ _ ticket evicted _ device _ _ hevicted hdevice =>
    obtain ⟨hsub, hfew, -⟩ := evicted_devices hevicted (hbefore ticket rfl).few
    have hsound := hkept rfl (hsub.trans (keptDevices_sublist _ ticket key))
    obtain rfl := newTicketDevice_ok hdevice
    refine hsound.push hfew (fun hmem => ?_) rfl
    exact key_not_kept _ ticket key ((hsub.map _).subset hmem)
  | deviceRevoked _ => exact hkept rfl List.filter_sublist
  | voided _ _ => exact .nil
  | refundFinished _ => exact .nil
  | watched | refundStarted | released | refundRestored => exact hkept rfl (List.Sublist.refl _)

/-- The epoch never goes back. -/
theorem TicketStep.epoch_le (h : TicketStep env s c k (some old) new flow)
    (hfew : old.devices.length ≤ maxTicketDevices) : old.deviceEpoch ≤ new.deviceEpoch := by
  cases h with
  | deviceAdded _ _ hevicted _ => exact (evicted_devices hevicted hfew).2.2
  | deviceRevoked _ => exact Nat.le_succ _
  | watched | refundStarted | released | voided | refundFinished | refundRestored =>
    exact Nat.le_refl _

/-- A key that appears on a stored ticket was added by `add_device`. -/
theorem TicketStep.key_added {key : String} (h : TicketStep env s c k (some old) new flow)
    (hfew : old.devices.length ≤ maxTicketDevices) (hbefore : key ∉ old.keys)
    (hafter : key ∈ new.keys) :
    ∃ certificate epoch expiresAtMs signature,
      c = .addDevice k key certificate epoch expiresAtMs signature := by
  have hsublist : ∀ {devices : List TicketDevice}, devices.Sublist old.devices →
      key ∉ devices.map (·.sessionPublicKey) := fun hsub hmem =>
    hbefore ((hsub.map _).subset hmem)
  cases h with
  | @deviceAdded _ newKey certificate epoch expiresAtMs signature _ evicted _ device _ _ hevicted
      hdevice =>
      obtain ⟨hsub, -, -⟩ := evicted_devices hevicted hfew
      obtain rfl := newTicketDevice_ok hdevice
      rw [Ticket.keys, List.map_append, List.mem_append] at hafter
      rcases hafter with hold | hnew
      · exact absurd hold (hsublist (hsub.trans (keptDevices_sublist _ old newKey)))
      · obtain rfl := List.mem_singleton.mp hnew
        exact ⟨certificate, epoch, expiresAtMs, signature, rfl⟩
  | deviceRevoked _ => exact absurd hafter (hsublist List.filter_sublist)
  | voided | refundFinished => cases hafter
  | watched | refundStarted | released | refundRestored => exact absurd hafter hbefore

theorem TicketStatus.Playable.ne {status : TicketStatus} (h : status.Playable) :
    status ≠ .refunded ∧ status ≠ .voided := by
  rcases h with rfl | rfl | rfl | rfl <;> simp

/-- A ticket nobody can play gets no device. -/
theorem TicketStep.devices_sublist (h : TicketStep env s c k (some old) new flow)
    (hdead : ¬ old.status.Playable) : new.devices.Sublist old.devices := by
  cases h with
  | deviceAdded hplayable _ _ _ => exact absurd hplayable hdead
  | deviceRevoked _ => exact List.filter_sublist
  | voided | refundFinished => exact List.nil_sublist _
  | watched | refundStarted | released | refundRestored => exact List.Sublist.refl _

/-- Voiding a ticket takes its devices. -/
theorem TicketStep.voided_devices (h : TicketStep env s c k before new flow)
    (hbefore : ∀ old, before = some old → old.status = .voided → old.devices = [])
    (hrefund : RefundDelivered c k before) (hvoided : new.status = .voided) :
    new.devices = [] := by
  have hkept : ∀ {old : Ticket}, before = some old → old.status = .voided →
      new.devices.Sublist old.devices → new.devices = [] := fun hold hstatus hsub =>
    List.sublist_nil.mp (hbefore _ hold hstatus ▸ hsub)
  cases h with
  | sold hsale => cases hsale.status.symm.trans hvoided
  | issued hissue => cases hissue.status.symm.trans hvoided
  | @watched _ ticket status _ hstatus =>
    obtain rfl : status = .voided := hvoided
    cases hrail : ticket.rail with
    | crypto => simp [hrail] at hstatus
    | card => simp [hrail] at hstatus
  | refundStarted => cases hvoided
  | released => cases hvoided
  | deviceAdded hplayable _ hevicted _ =>
    exact absurd ((evictOldest_ok hevicted).2.symm.trans hvoided) hplayable.ne.2
  | deviceRevoked _ => exact hkept rfl hvoided List.filter_sublist
  | voided => rfl
  | refundFinished => rfl
  | refundRestored _ =>
    obtain ⟨_, -, hof⟩ := hrefund _ _ _ rfl
    rcases hof.restore with rfl | rfl <;> cases hvoided

end Step

/-! ## Removals -/

section Removal

variable {env : Env} {s : Contract} {c : Call} {k key : String} {ticket : Ticket}
  {o : Outcome Unit}

/-- The call removes `key` from the ticket stored under `k`: a revocation by the holder or by the
platform, or the eviction by a fourth device. -/
inductive Removes (env : Env) (ticket : Ticket) (k key : String) : Call → Prop where
  | holder {epoch expiresAtMs signature : String} :
      Removes env ticket k key (.revokeDevice k key epoch expiresAtMs signature)
  | platform : Removes env ticket k key (.platformRevokeDevice k key)
  | evicted {newKey certificate epoch expiresAtMs signature : String} {oldest : TicketDevice}
      {rest : List TicketDevice} (hkept : keptDevices env ticket newKey = oldest :: rest)
      (hfull : rest.length + 1 = maxTicketDevices) (hkey : oldest.sessionPublicKey = key) :
      Removes env ticket k key (.addDevice k newKey certificate epoch expiresAtMs signature)

theorem revoked_get {revoked : Outcome Unit} (hkeyed : s.toTill.Keyed)
    (hget : s.tickets.get k = some ticket) (h : revokeTicketDevice s ticket key = .ok revoked) :
    revoked.state.tickets.get k = some { ticket with
      devices := ticket.devices.filter fun device => decide (device.sessionPublicKey ≠ key)
      deviceEpoch := ticket.deviceEpoch + 1 } := by
  obtain rfl : ticket.ticketId = k := hkeyed k ticket hget
  rw [(revokeTicketDevice_ok h).2]
  exact LookupMap.get_insert_self _ _ _

/-- A removal that went through changed the ticket. -/
theorem Removes.ran (h : Removes env ticket k key c) (hkeyed : s.toTill.Keyed)
    (hget : s.tickets.get k = some ticket) (hrun : c.run env s = .ok o) :
    ∃ new, o.state.tickets.get k = some new ∧
      TicketStep env s c k (some ticket) new .still := by
  obtain ⟨_, -, hbody⟩ := bind_eq_ok.mp hrun
  cases h with
  | @holder epoch expiresAtMs signature =>
    simp only [callBody, revokeDevice, bind_eq_ok, expect_eq_ok] at hbody
    obtain ⟨found, hfound, _, -, -, -, _, hepoch, hrevoked⟩ := hbody
    obtain rfl := Option.some.inj (hfound.symm.trans hget)
    exact ⟨_, revoked_get hkeyed hget hrevoked,
      .deviceRevoked (.inl ⟨epoch, expiresAtMs, signature, rfl, hepoch⟩)⟩
  | platform =>
    simp only [callBody, platformRevokeDevice, bind_eq_ok, expect_eq_ok] at hbody
    obtain ⟨-, -, found, hfound, _, -, hrevoked⟩ := hbody
    obtain rfl := Option.some.inj (hfound.symm.trans hget)
    exact ⟨_, revoked_get hkeyed hget hrevoked, .deviceRevoked (.inr rfl)⟩
  | evicted =>
    obtain ⟨added, hadded, hvoid⟩ := bind_eq_ok.mp hbody
    obtain rfl := pure_eq_ok.mp hvoid
    obtain ⟨found, new, hfound, hstep, hstate, -⟩ := addDevice_ok hadded
    obtain rfl := Option.some.inj (hfound.symm.trans hget)
    refine ⟨new, ?_, hstep⟩
    rw [Outcome.void, hstate]
    exact LookupMap.get_insert_self _ _ _

/-- After a removal the key is gone and the epoch is the next one. -/
theorem Removes.removed (h : Removes env ticket k key c) {new : Ticket} {flow : Flow}
    (hstep : TicketStep env s c k (some ticket) new flow)
    (hdistinct : ticket.keys.Nodup) :
    key ∉ new.keys ∧ new.deviceEpoch = ticket.deviceEpoch + 1 := by
  have hrevoked : ∀ {devices : List TicketDevice},
      key ∉ (devices.filter fun device => decide (device.sessionPublicKey ≠ key)).map
        (·.sessionPublicKey) := by
    intro devices hmem
    obtain ⟨device, hdevice, rfl⟩ := List.mem_map.mp hmem
    have := (List.mem_filter.mp hdevice).2
    simp at this
  cases h with
  | holder =>
    cases hstep with
    | deviceRevoked hc =>
      rcases hc with ⟨_, _, _, hc, -⟩ | hc
      · cases hc
        exact ⟨hrevoked, rfl⟩
      · cases hc
  | platform =>
    cases hstep with
    | deviceRevoked hc =>
      rcases hc with ⟨_, _, _, hc, -⟩ | hc
      · cases hc
      · cases hc
        exact ⟨hrevoked, rfl⟩
  | @evicted newKey _ _ _ _ oldest rest hkept hfull hkey =>
    cases hstep with
    | deviceAdded _ _ hevicted hdevice =>
      obtain rfl := newTicketDevice_ok hdevice
      have hkeys : (keptDevices env ticket newKey).map (·.sessionPublicKey) =
          key :: rest.map (·.sessionPublicKey) := by
        rw [hkept, List.map_cons, hkey]
      have hnodup := hdistinct.sublist ((keptDevices_sublist env ticket newKey).map _)
      rw [hkeys] at hnodup
      have hne : key ≠ newKey := by
        rintro rfl
        exact key_not_kept env ticket key (hkeys ▸ List.mem_cons_self)
      rcases evictOldest_cases hevicted with ⟨_, rest', hdevices, -, rfl⟩ | ⟨hfew, -⟩
      · obtain ⟨-, rfl⟩ := List.cons.inj (hkept.symm.trans hdevices)
        refine ⟨?_, rfl⟩
        rw [Ticket.keys, List.map_append, List.mem_append, not_or]
        exact ⟨(List.nodup_cons.mp hnodup).1, by simpa using hne⟩
      · have hlength : (keptDevices env ticket newKey).length = maxTicketDevices := by
          rw [hkept]
          exact hfull
        exact absurd hlength hfew
    | deviceRevoked hc =>
      rcases hc with ⟨_, _, _, hc, -⟩ | hc
      · cases hc
      · cases hc

/-- A device is added on a signature of the ticket's key over the ticket's current epoch. -/
theorem addDevice_signed {certificate epoch expiresAtMs signature : String}
    (h : Call.run env s (.addDevice k key certificate epoch expiresAtMs signature) = .ok o) :
    ∃ ticket, s.tickets.get k = some ticket ∧
      verifyTicketAction env ticket "add_device" expiresAtMs [key, certificate, epoch] signature =
        .ok ⟨⟩ ∧
      parseCanonicalDecimal "device_epoch" epoch (maxOf 32) = .ok ticket.deviceEpoch := by
  obtain ⟨_, -, h⟩ := bind_eq_ok.mp h
  obtain ⟨_, h, -⟩ := bind_eq_ok.mp h
  simp only [addDevice, playableTicket, assertDeviceEpoch, bind_eq_ok, expect_eq_ok, require_eq_ok,
    pure_eq_ok] at h
  obtain ⟨ticket, ⟨_, hget, -, -, _, -, -, -, rfl⟩, _, -, -, -, _, hsigned, _, ⟨epoch, hepoch, _,
    rfl⟩, -⟩ := h
  exact ⟨_, hget, hsigned, hepoch⟩

end Removal

/-! ## Runs -/

section World

variable {host : Host} {w w' : World} {l : Label} {k key : String}

/-- Every stored ticket's devices are as they can be. -/
structure World.DevicesSound (w : World) : Prop extends w.Sound where
  devices : ∀ k ticket, w.ticket k = some ticket → MarketV2.DevicesSound w.now ticket.devices
  voided : ∀ k ticket, w.ticket k = some ticket → ticket.status = .voided → ticket.devices = []

theorem Initial.devicesSound (h : Initial host w) : w.DevicesSound where
  toSound := h.sound
  devices := by simp [World.ticket, h.fresh.1.tickets]
  voided := by simp [World.ticket, h.fresh.1.tickets]

theorem TicketChange.refundDelivered (hsound : w.Sound) {ctx : Context} {c : Call} {new : Ticket}
    {flow : Flow} (h : TicketChange host w l w' k ctx c new flow) :
    RefundDelivered c k (w.ticket k) := by
  obtain ⟨rest, hdelivery⟩ := h.delivery
  obtain ⟨o, hrun, -⟩ := h.ran
  exact fun receiverId amount restoreStatus hc =>
    (hdelivery.delivered hrun hsound.books k receiverId amount restoreStatus hc).1

theorem World.DevicesSound.step (hs : w.DevicesSound) (h : worldStep host w l w') :
    w'.DevicesSound := by
  have hnow := World.step_now h
  refine { hs.toSound.step h with devices := ?_, voided := ?_ }
  · intro k ticket hget
    rcases hs.ticket_cases h k with hsame | ⟨ctx, c, new, flow, hchange⟩
    · exact (hs.devices k ticket (hsame.symm.trans hget)).sublist (List.Sublist.refl _) hnow
    · obtain rfl := Option.some.inj (hchange.ticket.symm.trans hget)
      rw [hchange.now]
      exact hchange.step.devices (fun old hold => hs.devices k old hold) (hchange.now ▸ hnow)
  · intro k ticket hget
    rcases hs.ticket_cases h k with hsame | ⟨ctx, c, new, flow, hchange⟩
    · exact hs.voided k ticket (hsame.symm.trans hget)
    · obtain rfl := Option.some.inj (hchange.ticket.symm.trans hget)
      exact hchange.step.voided_devices (fun old hold => hs.voided k old hold)
        (hchange.refundDelivered hs.toSound)

theorem World.DevicesSound.trace (hs : w.DevicesSound) {tr : List (Transition World Label)}
    (h : Trace (worldStep host) w tr w') : w'.DevicesSound :=
  h.invariant (fun _ _ _ hs hst => hs.step hst) hs

/-- The epoch of a stored ticket never goes back. -/
theorem World.DevicesSound.epoch_trace (hs : w.DevicesSound)
    {tr : List (Transition World Label)} (h : Trace (worldStep host) w tr w') {ticket : Ticket}
    (hget : w.ticket k = some ticket) :
    ∃ ticket', w'.ticket k = some ticket' ∧ ticket.deviceEpoch ≤ ticket'.deviceEpoch := by
  induction h with
  | nil => exact ⟨ticket, hget, Nat.le_refl _⟩
  | snoc htr hstep ih =>
    have hmid := hs.trace htr
    obtain ⟨mid, hmidget, hle⟩ := ih
    rcases hmid.ticket_cases hstep k with hsame | ⟨ctx, c, new, flow, hchange⟩
    · exact ⟨mid, hsame.trans hmidget, hle⟩
    · have hchanged := hchange.step
      rw [hmidget] at hchanged
      exact ⟨new, hchange.ticket, hle.trans (hchanged.epoch_le (hmid.devices k mid hmidget).few)⟩

/-- The key is on the ticket stored under `k`. -/
def World.HasKey (w : World) (k key : String) : Prop :=
  ∃ ticket, w.ticket k = some ticket ∧ key ∈ ticket.keys

/-- The transition removed the key. -/
def DeviceRemoved (host : Host) (k key : String) (x : Transition World Label) : Prop :=
  ∃ ctx c o ticket, x.label = .call ctx c ∧ c.run ⟨host, ctx⟩ x.pre.contract = .ok o ∧
    x.pre.ticket k = some ticket ∧ Removes ⟨host, ctx⟩ ticket k key c

/-- The transition is an `add_device` of the key, signed for an epoch not before `epoch`. -/
def SignedSince (host : Host) (k key : String) (epoch : Nat) (x : Transition World Label) : Prop :=
  ∃ ctx certificate deviceEpoch expiresAtMs signature ticket signed,
    x.label = .call ctx (.addDevice k key certificate deviceEpoch expiresAtMs signature) ∧
      x.pre.ticket k = some ticket ∧
      verifyTicketAction ⟨host, ctx⟩ ticket "add_device" expiresAtMs
        [key, certificate, deviceEpoch] signature = .ok ⟨⟩ ∧
      parseCanonicalDecimal "device_epoch" deviceEpoch (maxOf 32) = .ok signed ∧ epoch ≤ signed

/-- A removal takes the key off the ticket and advances the epoch. -/
theorem DeviceRemoved.removed (hs : w.DevicesSound) (hstep : worldStep host w l w')
    (h : DeviceRemoved host k key ⟨w, l, w'⟩) :
    ∃ before after, w.ticket k = some before ∧ w'.ticket k = some after ∧
      after.deviceEpoch = before.deviceEpoch + 1 ∧ key ∉ after.keys := by
  obtain ⟨ctx, c, o, before, rfl, hrun, hbefore, hremoves⟩ := h
  have hrun : c.run ⟨host, ctx⟩ w.contract = .ok o := hrun
  obtain ⟨new, hnew, hchange⟩ := hremoves.ran hs.books.keyed hbefore hrun
  obtain ⟨hgone, hepoch⟩ := hremoves.removed hchange (hs.devices k before hbefore).distinct
  have hstate : w'.contract = o.state := by
    cases World.step_cases hstep with
    | ran hdelivery _ hrun' =>
      cases hdelivery
      rw [Except.ok.inj (hrun'.symm.trans hrun)]
    | panicked hdelivery _ hrun' =>
      cases hdelivery
      cases hrun'.symm.trans hrun
  refine ⟨before, new, hbefore, ?_, hepoch, hgone⟩
  rw [World.ticket, hstate]
  exact hnew

/-- A key that comes to a stored ticket was signed for the epoch the ticket has then. -/
theorem World.DevicesSound.signed (hs : w.DevicesSound) (hstep : worldStep host w l w')
    {ticket : Ticket} (hget : w.ticket k = some ticket) (hbefore : ¬ w.HasKey k key)
    (hafter : w'.HasKey k key) : SignedSince host k key ticket.deviceEpoch ⟨w, l, w'⟩ := by
  obtain ⟨last, hlast, hkey⟩ := hafter
  have hnot : key ∉ ticket.keys := fun hmem => hbefore ⟨ticket, hget, hmem⟩
  rcases hs.ticket_cases hstep k with hsame | ⟨ctx, c, new, flow, hchange⟩
  · exact absurd ⟨last, hsame.symm.trans hlast, hkey⟩ hbefore
  · obtain rfl := Option.some.inj (hchange.ticket.symm.trans hlast)
    have hticketStep := hchange.step
    rw [hget] at hticketStep
    obtain ⟨certificate, epoch, expiresAtMs, signature, rfl⟩ :=
      hticketStep.key_added (hs.devices k ticket hget).few hnot hkey
    obtain ⟨o, hrun, -⟩ := hchange.ran
    obtain ⟨signer, hsigner, hverified, hepoch⟩ := addDevice_signed hrun
    obtain rfl := Option.some.inj (hsigner.symm.trans hget)
    exact ⟨ctx, certificate, epoch, expiresAtMs, signature, signer, _,
      hchange.external (by simp) (by simp), hget, hverified, hepoch, Nat.le_refl _⟩

/-- A key that is not on a ticket comes back only by a signature for the epoch of that moment or a
later one. -/
theorem World.DevicesSound.returns (hs : w.DevicesSound) {tr : List (Transition World Label)}
    (h : Trace (worldStep host) w tr w') {ticket : Ticket} (hget : w.ticket k = some ticket)
    (hbefore : ¬ w.HasKey k key) (hafter : w'.HasKey k key) :
    ∃ x ∈ tr, SignedSince host k key ticket.deviceEpoch x := by
  obtain ⟨a, x, b, rfl, hpre, hpost, -⟩ := h.since (P := fun w => w.HasKey k key) hbefore hafter
  obtain ⟨ha, hx, -⟩ := h.at_mem
  obtain ⟨mid, hmid, hle⟩ := hs.epoch_trace ha hget
  obtain ⟨ctx, certificate, epoch, expiresAtMs, signature, signer, signed, hlabel, hsigner,
    hverified, hepoch, hsigned⟩ := (hs.trace ha).signed hx hmid hpre hpost
  exact ⟨x, by simp, ctx, certificate, epoch, expiresAtMs, signature, signer, signed, hlabel,
    hsigner, hverified, hepoch, hle.trans hsigned⟩

/-! ## Tickets without devices -/

/-- The callback of a refund that landed. -/
def RefundFinished (k : String) (x : Transition World Label) : Prop :=
  ∃ ctx i promise, x.label = .callback ctx i ∧ x.pre.pending[i]? = some ⟨promise, some true⟩ ∧
    promise.refundedTicket = some k

/-- The callback of a landed refund goes through and takes the devices. -/
theorem refundFinished_runs {env : Env} {s : Contract} {receiverId : AccountId} {amount : Nat}
    {restoreStatus : Option TicketStatus} {ticket : Ticket}
    (hown : env.predecessorAccountId = env.currentAccountId) (hdeposit : env.attachedDeposit = 0)
    (hresult : env.promiseResults = [.successful]) (hget : s.tickets.get k = some ticket) :
    ∃ o, Call.run env s (.callback (.onTicketRefund k receiverId amount restoreStatus)) = .ok o ∧
      o.state.tickets.get k = some { ticket with devices := [] } := by
  have hcallback : callbackResult env "Expected one refund result" = .ok .successful := by
    simp [callbackResult, hresult]
  refine ⟨_, bind_eq_ok.mpr ⟨⟨⟩, require_eq_ok.mpr (.inr hdeposit), bind_eq_ok.mpr ⟨_,
    bind_eq_ok.mpr ⟨⟨⟩, assertPrivate_ok.mpr hown, bind_eq_ok.mpr ⟨_, hcallback, bind_eq_ok.mpr
      ⟨ticket, expect_eq_ok.mpr hget, rfl⟩⟩⟩, rfl⟩⟩, ?_⟩
  exact LookupMap.get_insert_self _ _ _

theorem Promise.refundedTicket_callback {promise : Promise}
    (h : promise.refundedTicket = some k) :
    ∃ receiverId amount restoreStatus,
      promise.callback = some (.onTicketRefund k receiverId amount restoreStatus) := by
  obtain ⟨⟨k', amount, restoreStatus⟩, hrefund, rfl⟩ := Option.map_eq_some_iff.mp h
  unfold Promise.refund at hrefund
  split at hrefund
  · next receiverId _ _ hcallback =>
      cases hrefund
      exact ⟨_, _, _, hcallback⟩
  · cases hrefund

theorem RefundFinished.emptied (hsound : w.Sound) (hstep : worldStep host w l w')
    (h : RefundFinished k ⟨w, l, w'⟩) :
    Settled k .refund w' ∧ ∃ ticket, w'.ticket k = some ticket ∧ ticket.devices = [] := by
  obtain ⟨ctx, i, promise, rfl, hget, htag⟩ := h
  have hget : w.pending[i]? = some ⟨promise, some true⟩ := hget
  have hmem := Outbox.item_mem hget
  have hsettled : Settled k .refund w := by
    refine ⟨hsound.status_refunded hmem htag, fun flight hflight hsame => ?_⟩
    rw [← Outbox.set_self hget] at hflight
    rw [hsound.refund_unique hget htag hflight hsame]
  refine ⟨hsettled.step hsound hstep, ?_⟩
  obtain ⟨ticket, _, _, -, hticket, -⟩ := hsound.refunded hmem htag
  obtain ⟨receiverId, amount, restoreStatus, hcallback⟩ := Promise.refundedTicket_callback htag
  obtain ⟨o, hruns, hempty⟩ : ∃ o, Call.run ⟨host, ctx.own host [promiseResult true]⟩ w.contract
      (.callback (.onTicketRefund k receiverId amount restoreStatus)) = .ok o ∧
        o.state.tickets.get k = some { ticket with devices := [] } :=
    refundFinished_runs rfl rfl rfl hticket
  have hstate : w'.contract = o.state := by
    cases World.step_cases hstep with
    | ran hdelivery _ hrun =>
      cases hdelivery with
      | callback hget' hcallback' =>
        cases hget'.symm.trans hget
        cases hcallback'.symm.trans hcallback
        rw [Except.ok.inj (hrun.symm.trans hruns)]
    | panicked hdelivery _ hrun =>
      cases hdelivery with
      | callback hget' hcallback' =>
        cases hget'.symm.trans hget
        cases hcallback'.symm.trans hcallback
        cases hrun.symm.trans hruns
  refine ⟨{ ticket with devices := [] }, ?_, rfl⟩
  rw [World.ticket, hstate]
  exact hempty

/-- A ticket settled by a refund or a void gets no device. -/
theorem Settled.devices_trace {e : Settlement} (hsound : w.Sound) (hsettled : Settled k e w)
    (hdead : ¬ e.status.Playable) {tr : List (Transition World Label)}
    (h : Trace (worldStep host) w tr w') {ticket : Ticket} (hget : w.ticket k = some ticket) :
    ∃ ticket', w'.ticket k = some ticket' ∧ ticket'.devices.Sublist ticket.devices := by
  induction h with
  | nil => exact ⟨ticket, hget, List.Sublist.refl _⟩
  | @snoc tr mid l last htr hstep ih =>
    obtain ⟨hmid, hmidSettled⟩ := htr.invariant (I := fun w => w.Sound ∧ Settled k e w)
      (fun _ _ _ hw hst => ⟨hw.1.step hst, hw.2.step hw.1 hst⟩) ⟨hsound, hsettled⟩
    obtain ⟨kept, hkept, hsub⟩ := ih
    rcases hmid.ticket_cases hstep k with hsame | ⟨ctx, c, new, flow, hchange⟩
    · exact ⟨kept, hsame.trans hkept, hsub⟩
    · have hticketStep := hchange.step
      rw [hkept] at hticketStep
      have hstatus : kept.status = e.status := by
        obtain ⟨settled, hget', hstatus⟩ := hmidSettled.ticket
        obtain rfl := Option.some.inj (hget'.symm.trans hkept)
        exact hstatus
      exact ⟨new, hchange.ticket, (hticketStep.devices_sublist (hstatus ▸ hdead)).trans hsub⟩

theorem World.DevicesSound.settled_voided (hs : w.DevicesSound) {ticket : Ticket}
    (hget : w.ticket k = some ticket) (hvoided : ticket.status = .voided) :
    Settled k .void w where
  status := by rw [World.status, hget, Option.map_some, hvoided]; rfl
  refunds := by
    intro flight hflight htag
    have hrefunded := hs.status_refunded (List.mem_map_of_mem hflight) htag
    rw [World.status, hget, Option.map_some, hvoided] at hrefunded
    cases hrefunded

/-! ## Every run -/

/-- In every reachable state a ticket has at most three devices, with distinct session keys, in the
order of their authorization; the epoch never decreases; a removed key returns only on a signature
for an epoch after its removal; a voided ticket has no device and gets none, and neither does one
whose refund went through. -/
theorem ticket_devices {w₀ w₁ w₂ : World} {tr₁ tr₂ : List (Transition World Label)}
    (h₀ : Initial host w₀) (h₁ : Trace (worldStep host) w₀ tr₁ w₁)
    (h₂ : Trace (worldStep host) w₁ tr₂ w₂) (k : String) :
    (∀ ticket, w₁.ticket k = some ticket → ticket.devices.length ≤ 3 ∧ ticket.keys.Nodup ∧
      (ticket.devices.map (·.authorizedAtMs)).Pairwise (· ≤ ·)) ∧
    (∀ ticket, w₁.ticket k = some ticket →
      ∃ ticket', w₂.ticket k = some ticket' ∧ ticket.deviceEpoch ≤ ticket'.deviceEpoch) ∧
    (∀ a x key, tr₁ = a ++ [x] → DeviceRemoved host k key x →
      ∃ before after, x.pre.ticket k = some before ∧ w₁.ticket k = some after ∧
        after.deviceEpoch = before.deviceEpoch + 1 ∧ key ∉ after.keys ∧
        (w₂.HasKey k key → ∃ y ∈ tr₂, SignedSince host k key after.deviceEpoch y)) ∧
    (∀ ticket, w₁.ticket k = some ticket → ticket.status = .voided →
      ∃ ticket', w₂.ticket k = some ticket' ∧ ticket'.devices = []) ∧
    (∀ a x, tr₁ = a ++ [x] → RefundFinished k x →
      ∃ ticket', w₂.ticket k = some ticket' ∧ ticket'.devices = []) ∧
    ∀ a x ticket, tr₁ = a ++ [x] → RefundLanded k x → w₁.ticket k = some ticket →
      ∃ ticket', w₂.ticket k = some ticket' ∧ ticket'.devices.Sublist ticket.devices := by
  have hs₁ : w₁.DevicesSound := h₀.devicesSound.trace h₁
  have hlast : ∀ a x, tr₁ = a ++ [x] →
      x = ⟨x.pre, x.label, w₁⟩ ∧ x.pre.DevicesSound ∧ worldStep host x.pre x.label w₁ := by
    rintro a x rfl
    obtain ⟨hx, ha, hstep⟩ := h₁.at_last
    exact ⟨hx, h₀.devicesSound.trace ha, hstep⟩
  have hnone : ∀ e ticket, e ≠ .release → Settled k e w₁ → w₁.ticket k = some ticket →
      ticket.devices = [] → ∃ ticket', w₂.ticket k = some ticket' ∧ ticket'.devices = [] := by
    intro e ticket he hsettled hget hempty
    have hdead : ¬ e.status.Playable := by
      cases e with
      | refund => exact fun h => h.ne.1 rfl
      | release => exact absurd rfl he
      | void => exact fun h => h.ne.2 rfl
    obtain ⟨ticket', hget', hsub⟩ := hsettled.devices_trace hs₁.toSound hdead h₂ hget
    exact ⟨ticket', hget', List.sublist_nil.mp (hempty ▸ hsub)⟩
  refine ⟨?_, fun ticket hget => hs₁.epoch_trace h₂ hget, ?_, ?_, ?_, ?_⟩
  · intro ticket hget
    have hdevices := hs₁.devices k ticket hget
    exact ⟨hdevices.few, hdevices.distinct, hdevices.ordered⟩
  · intro a x key htr hremoved
    obtain ⟨hx, hpre, hstep⟩ := hlast a x htr
    rw [hx] at hremoved
    obtain ⟨before, after, hbefore, hafter, hepoch, hgone⟩ := hremoved.removed hpre hstep
    refine ⟨before, after, hbefore, hafter, hepoch, hgone, fun hreturns => ?_⟩
    refine hs₁.returns h₂ hafter ?_ hreturns
    rintro ⟨ticket, hticket, hkey⟩
    obtain rfl := Option.some.inj (hticket.symm.trans hafter)
    exact hgone hkey
  · intro ticket hget hvoided
    exact hnone .void ticket (by decide) (hs₁.settled_voided hget hvoided) hget
      (hs₁.voided k ticket hget hvoided)
  · intro a x htr hfinished
    obtain ⟨hx, hpre, hstep⟩ := hlast a x htr
    rw [hx] at hfinished
    obtain ⟨hsettled, ticket, hget, hempty⟩ := hfinished.emptied hpre.toSound hstep
    exact hnone .refund ticket (by decide) hsettled hget hempty
  · intro a x ticket htr hlanded hget
    obtain ⟨hx, hpre, hstep⟩ := hlast a x htr
    rw [hx] at hlanded
    have hsettled : Settled k .refund w₁ :=
      settled_of_settlement hpre.toSound hstep (by rw [settlement, if_pos hlanded])
    exact hsettled.devices_trace hs₁.toSound (fun h => h.ne.1 rfl) h₂ hget

end World

theorem ticket_devices_revoked :
    ∃ w₀ tr w ticket, Initial Vectors.host w₀ ∧ Trace (worldStep Vectors.host) w₀ tr w ∧
      w.ticket Vectors.ticketId = some ticket ∧ ticket.deviceEpoch = 1 ∧
      ticket.devices.length ≤ 3 := by
  have hrun : (Vectors.worldRun Vectors.host (Vectors.sale ++ Vectors.deviceChange)).map
      (fun r => (r.2.ticket Vectors.ticketId).map (·.deviceEpoch)) = some (some 1) := by
    decide +kernel
  obtain ⟨w₀, tr, w, h₀, h, hepoch⟩ := Vectors.trace_of_worldRun hrun
  obtain ⟨ticket, hticket, hone⟩ := Option.map_eq_some_iff.mp hepoch
  obtain ⟨hdevices, -⟩ := ticket_devices h₀ h .nil Vectors.ticketId
  exact ⟨w₀, tr, w, ticket, h₀, h, hticket, hone, (hdevices ticket hticket).1⟩

end Youtick.MarketV2
