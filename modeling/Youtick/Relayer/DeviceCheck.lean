import Youtick.MarketV2.Devices
import Youtick.Relayer.PurchaseCheck

/-!
# Relayer: the device check and the contract

The relayer prunes, renews and evicts on its copy of a ticket's device list, at the time of the check;
the contract does so on its own list up to a minute later. For an accepted link that is not listed yet
the two agree, except that the contract cannot evict at the last device epoch: it would have to
count past 32 bits (`device_mirrors_iff`).
-/

set_option autoImplicit false

namespace Youtick.Relayer

open Youtick.Lib Youtick.MarketV2 Youtick.PaymentService

/-! ## The call the relayer submits -/

/-- The environment at another block time. -/
def atTime (env : MarketV2.Env) (time : Nat) : MarketV2.Env := { env with blockTimestampMs := time }

def submit (env : MarketV2.Env) (s : Contract) (args : AddDeviceArgs) (time : Nat) :
    Result (Outcome TicketDevice) :=
  addDevice (atTime env time) s args.ticketId args.sessionPublicKey args.certificateSha256
    args.deviceEpoch args.expiresAtMs args.signature

/-- The sessions whose revocation the events announce. -/
def revokedSessions (events : List Event) : List String :=
  events.filterMap fun event =>
    if event.event = "device_revoked" then
      match event.data.find? fun field => field.1 = "session_public_key" with
      | some (_, .str session) => some session
      | _ => none
    else none

/-- The storage with other devices and another epoch on a ticket. -/
def withDevices (s : Contract) (ticketId : String) (ticket : Ticket) (devices : List TicketDevice)
    (deviceEpoch : Nat) : Contract :=
  let changed := { ticket with devices := devices, deviceEpoch := deviceEpoch }
  { s with tickets := s.tickets.insert ticketId changed }

/-- Room for one device: a device more on a ticket costs at most 1,000 bytes. -/
def DeviceRoom (env : MarketV2.Env) (s : Contract) : Prop :=
  ∀ (ticketId : String) (ticket : Ticket) (device : TicketDevice) (kept : List TicketDevice)
    (deviceEpoch : Nat), s.tickets.get ticketId = some ticket → kept.Sublist ticket.devices →
    isSessionKey device.sessionPublicKey = true → isHexText 64 device.certificateSha256 = true →
      env.storageUsage (withDevices s ticketId ticket (kept ++ [device]) deviceEpoch) ≤
        env.storageUsage s + 1000

/-- The contract evicts the oldest of three devices, which takes the next epoch, and nothing from
fewer. -/
theorem evictOldest_kept (ticketId : String) (ticket : Ticket)
    (hfew : ticket.devices.length ≤ MarketV2.maxTicketDevices) :
    (ticket.devices.length < MarketV2.maxTicketDevices ∧
      evictOldest ticketId ticket = .ok (ticket, [])) ∨
    ∃ oldest rest, ticket.devices = oldest :: rest ∧
      ticket.devices.length = MarketV2.maxTicketDevices ∧
      ∀ result, evictOldest ticketId ticket = .ok result ↔
        ticket.deviceEpoch + 1 ≤ maxOf 32 ∧
          result = ({ ticket with devices := rest, deviceEpoch := ticket.deviceEpoch + 1 },
            [deviceRevokedEvent ticketId oldest.sessionPublicKey (ticket.deviceEpoch + 1)]) := by
  unfold evictOldest
  cases hdevices : ticket.devices with
  | nil => exact .inl ⟨by decide, rfl⟩
  | cons oldest rest =>
    rw [hdevices] at hfew
    by_cases hfull : (oldest :: rest).length = MarketV2.maxTicketDevices
    · refine .inr ⟨oldest, rest, rfl, hfull, fun result => ?_⟩
      simp only [if_pos hfull, bind_eq_ok, checkedAdd_eq_ok, pure_eq_ok]
      constructor
      · rintro ⟨_, ⟨hnext, rfl⟩, rfl⟩
        exact ⟨hnext, rfl⟩
      · rintro ⟨hnext, rfl⟩
        exact ⟨_, ⟨hnext, rfl⟩, rfl⟩
    · exact .inl ⟨Nat.lt_of_le_of_ne hfew hfull, if_neg hfull⟩

/-! ## The storage runway -/

/-- A runway of 26,000 bytes leaves 25,000 after one device. -/
theorem assertRunway_of_room {env : MarketV2.Env} {s s' : Contract} {status : StorageReserveStatus}
    (hbalance : env.accountBalance ≤ maxOf 128) (hstatus : storageReserveStatus env s = .ok status)
    (hrunway : deviceMinRunwayBytes ≤ status.reserveRunwayBytes)
    (husage : env.storageUsage s' ≤ env.storageUsage s + 1000)
    (hreserve : s'.nearOperationalReserve = s.nearOperationalReserve) :
    assertRunway env s' publicTestnetBetaEmergencyRunwayBytes = .ok ⟨⟩ := by
  simp only [storageReserveStatus, checkedDiv, bind_eq_ok, checkedMul_eq_ok, checkedAdd_eq_ok,
    ite_eq_ok, error_eq_ok, ok_eq_ok, pure_eq_ok, and_false, false_or] at hstatus
  obtain ⟨_, ⟨-, rfl⟩, _, ⟨-, rfl⟩, _, ⟨hcost, rfl⟩, rfl⟩ := hstatus
  simp only [deviceMinRunwayBytes] at hrunway
  have hpos : 0 < env.storageByteCost := Nat.pos_of_ne_zero hcost
  -- The headroom in bytes, multiplied out.
  have hroom : 26000 * env.storageByteCost ≤ env.accountBalance -
      (env.storageUsage s * env.storageByteCost + s.nearOperationalReserve) :=
    (Nat.le_div_iff_mul_le hpos).mp hrunway
  have hstake : env.storageUsage s' * env.storageByteCost ≤
      env.storageUsage s * env.storageByteCost + 1000 * env.storageByteCost := by
    rw [← Nat.add_mul]
    exact Nat.mul_le_mul_right _ husage
  have hleft : 25000 * env.storageByteCost ≤ env.accountBalance -
      (env.storageUsage s' * env.storageByteCost + s'.nearOperationalReserve) := by
    rw [hreserve]
    omega
  simp only [assertRunway, storageReserveStatus, checkedDiv, bind_eq_ok, checkedMul_eq_ok,
    checkedAdd_eq_ok, ite_eq_ok, error_eq_ok, ok_eq_ok, pure_eq_ok, and_false, false_or,
    require_eq_ok]
  refine ⟨_, ⟨_, ⟨?_, rfl⟩, _, ⟨?_, rfl⟩, _, ⟨hcost, rfl⟩, rfl⟩, ?_⟩
  · omega
  · omega
  · exact (Nat.le_div_iff_mul_le hpos).mpr hleft

/-! ## The two device lists -/

section Lists

variable {env : MarketV2.Env} {ticket : Ticket} {key : String}

theorem lt_toDouble_iff {n now : Nat} (hnow : now ≤ maxTimeMs) : now < toDouble n ↔ now < n := by
  simp only [maxTimeMs] at hnow
  by_cases hsmall : n < 2 ^ 53
  · rw [toDouble_of_lt hsmall]
  · have hlarge := le_toDouble (Nat.not_lt.mp hsmall)
    constructor <;> omega

/-- The relayer's unexpired devices are the contract's. -/
theorem active_eq (hnow : env.blockTimestampMs ≤ maxTimeMs) (devices : List TicketDevice) :
    (devices.map deviceView).filter (fun device =>
      decide (number device.expiresAtMs > env.blockTimestampMs)) =
        (devices.filter fun device =>
          decide (device.expiresAtMs > env.blockTimestampMs)).map deviceView := by
  rw [List.filter_map]
  congr 1
  apply List.filter_congr
  intro device _
  simp only [Function.comp_apply, deviceView, number_decimal, gt_iff_lt, lt_toDouble_iff hnow]

theorem others_eq (hnow : env.blockTimestampMs ≤ maxTimeMs) :
    ((ticket.devices.map deviceView).filter (fun device =>
      decide (number device.expiresAtMs > env.blockTimestampMs))).filter (fun device =>
        decide (device.sessionPublicKey ≠ key)) =
          (keptDevices env ticket key).map deviceView := by
  rw [active_eq hnow, List.filter_map, List.filter_filter, keptDevices]
  congr 1
  apply List.filter_congr
  intro device _
  exact Bool.and_comm _ _

theorem own_isSome (hnow : env.blockTimestampMs ≤ maxTimeMs) :
    (((ticket.devices.map deviceView).filter (fun device =>
      decide (number device.expiresAtMs > env.blockTimestampMs))).find? fun device =>
        decide (device.sessionPublicKey = key)).isSome = true ↔
      ∃ device ∈ ticket.devices, env.blockTimestampMs < device.expiresAtMs ∧
        device.sessionPublicKey = key := by
  rw [active_eq hnow, List.find?_isSome]
  simp only [List.mem_map, List.mem_filter, decide_eq_true_eq, deviceView]
  constructor
  · rintro ⟨_, ⟨device, ⟨hdevice, hlive⟩, rfl⟩, hkey⟩
    exact ⟨device, hdevice, hlive, hkey⟩
  · rintro ⟨device, hdevice, hlive, hkey⟩
    exact ⟨_, ⟨device, ⟨hdevice, hlive⟩, rfl⟩, hkey⟩

end Lists

/-! ## What an accepted link meets -/

/-- The conditions of `add_device` on an accepted link, up to the end of the margin, and what the
relayer reports. -/
structure AcceptedDevice (env : MarketV2.Env) (s : Contract) (args : AddDeviceArgs)
    (check : DeviceCheck) (ticket : Ticket) : Prop where
  stored : s.tickets.get args.ticketId = some ticket
  playable : playableTicket s args.ticketId = .ok ticket
  sessionKey : ∃ key, parseEd25519Key env.toHost args.sessionPublicKey = .ok key
  sessionText : isSessionKey args.sessionPublicKey = true
  certificate : isHexText 64 args.certificateSha256 = true
  signed : ∀ time, env.blockTimestampMs ≤ time → time ≤ env.blockTimestampMs + expiryMarginMs →
    verifyTicketAction (atTime env time) ticket "add_device" args.expiresAtMs
      [args.sessionPublicKey, args.certificateSha256, args.deviceEpoch] args.signature = .ok ⟨⟩
  epoch : assertDeviceEpoch ticket args.deviceEpoch = .ok ⟨⟩
  runway : ∃ status, storageReserveStatus env s = .ok status ∧
    deviceMinRunwayBytes ≤ status.reserveRunwayBytes
  renewal : check.renewal = true ↔ ∃ device ∈ ticket.devices,
    env.blockTimestampMs < device.expiresAtMs ∧ device.sessionPublicKey = args.sessionPublicKey
  evicts : check.evicts =
    if (keptDevices env ticket args.sessionPublicKey).length ≥ maxTicketDevices then
      (keptDevices env ticket args.sessionPublicKey).head?.map (·.sessionPublicKey)
    else none

section Device

variable {platform : Platform} {env : MarketV2.Env} {s : Contract} {args : AddDeviceArgs}
  {check : DeviceCheck} {ticket : Ticket}

theorem playable_of_status {status : TicketStatus} (h : statusName status ∈ playableStatuses) :
    status = .purchased ∨ status = .watched ∨ status = .watchedInEscrow ∨ status = .released := by
  cases status with
  | purchased | watched | watchedInEscrow | released => simp
  | refunded | voided => exact absurd h (by decide)

/-- What the relayer accepts and does not report as listed meets the conditions of `add_device` up to
the storage runway after the call. -/
theorem checkAddDeviceArgs_ok (hagrees : Agrees platform env.toHost)
    (hnow : env.blockTimestampMs ≤ maxTimeMs)
    (h : checkAddDeviceArgs platform (marketView env s)
      ⟨env.currentAccountId, args, env.blockTimestampMs⟩ = .ok check)
    (hlisted : check.listed = false) :
    ∃ ticket, AcceptedDevice env s args check ticket := by
  simp only [checkAddDeviceArgs, ticketDevices, marketView, bind_eq_ok, expect_eq_ok,
    require_eq_ok, pure_eq_ok, ok_eq_ok, signedLines_eq_ok, ed25519Key_eq_ok hagrees] at h
  obtain ⟨_, ⟨-, hcertificate, hsession, hepochText, hepochRange, -⟩, sessionKey,
    hsessionKey, _, hexpiry, _, rfl, view, hview, _, ⟨hid, -⟩, _, ⟨_, -, rfl⟩, _, hstatus, ticketKey,
    hticketKey, _, -, _, rfl, publicationView, hpublicationView, _, ⟨-, havailability⟩, network,
    hnetwork, _, ⟨hlines, rfl⟩, _, hsigned, h⟩ := h
  obtain ⟨ticket, hstored, rfl⟩ := Option.map_eq_some_iff.mp hview
  obtain ⟨publication, hpublication, rfl⟩ := Option.map_eq_some_iff.mp hpublicationView
  rcases ite_eq_ok.mp h with ⟨-, h⟩ | ⟨-, h⟩
  · obtain rfl := pure_eq_ok.mp h
    cases hlisted
  · simp only [bind_eq_ok, require_eq_ok, pure_eq_ok] at h
    obtain ⟨_, hepoch, runway, hrunway, _, hrunwayText, _, hroom, rfl⟩ := h
    have hid : ticket.ticketId = args.ticketId := hid
    have hexact : number args.deviceEpoch = digitsValue args.deviceEpoch.toList :=
      toDouble_eq_of_lt (Nat.lt_of_le_of_lt (Nat.not_lt.mp hepochRange) (by decide))
    rw [hexact] at hepoch hepochRange
    obtain ⟨hkeyLength, -⟩ := parseEd25519Key_ok hticketKey
    refine ⟨ticket, hstored, ?_, ⟨sessionKey, hsessionKey⟩, hsession, hcertificate, ?_, ?_, ?_, ?_, ?_⟩
    · simp only [playableTicket, bind_eq_ok, expect_eq_ok, require_eq_ok, pure_eq_ok]
      refine ⟨ticket, hstored, ⟨⟩, playable_of_status hstatus, publication, hpublication, ⟨⟩, ?_, rfl⟩
      intro htakedown
      exact havailability (congrArg availabilityName htakedown)
    · intro time hfrom hto
      have hlive := parseSignatureExpiry_of_expiry hnow hexpiry hfrom hto
      simp only [verifyTicketAction, bind_eq_ok]
      rw [hid]
      exact ⟨_, hlive, network, networkId_of_networkOf hnetwork, _, hlines, ticketKey, hticketKey,
        verifyEd25519_of_true hagrees hkeyLength hsigned⟩
    · simp only [assertDeviceEpoch, bind_eq_ok, require_eq_ok]
      exact ⟨_, (parseCanonicalDecimal_eq_ok hepochText (by decide)).mpr
        ⟨rfl, Nat.not_lt.mp hepochRange⟩, hepoch⟩
    · split at hrunway
      · next status hstatus' =>
          obtain rfl := ok_eq_ok.mp hrunway
          rw [digitsValue_decimal] at hroom
          exact ⟨status, hstatus', Nat.not_lt.mp hroom⟩
      · cases hrunway
    · exact own_isSome hnow
    · simp only [ticketView, others_eq hnow, List.length_map, List.head?_map, Option.map_map]
      rfl

/-! ## The call -/

/-- The relayer's answer is what the contract does: the link succeeds for a minute, the session it
evicts at the time of the check is the reported one, and a renewal is a device listed then. -/
structure Mirrors (env : MarketV2.Env) (s : Contract) (args : AddDeviceArgs) (check : DeviceCheck) :
    Prop where
  succeeds : ∀ time, env.blockTimestampMs ≤ time → time < env.blockTimestampMs + expiryMarginMs →
    ∃ o, submit env s args time = .ok o
  evicts : ∀ o, submit env s args env.blockTimestampMs = .ok o →
    revokedSessions o.events = check.evicts.toList
  renewal : check.renewal = true ↔ ∃ ticket, s.tickets.get args.ticketId = some ticket ∧
    ∃ device ∈ ticket.devices, env.blockTimestampMs < device.expiresAtMs ∧
      device.sessionPublicKey = args.sessionPublicKey

/-- The contract would evict a device and the ticket's epoch is the last one. -/
def EpochExhausted (env : MarketV2.Env) (s : Contract) (args : AddDeviceArgs) : Prop :=
  ∃ ticket, s.tickets.get args.ticketId = some ticket ∧
    (keptDevices env ticket args.sessionPublicKey).length = MarketV2.maxTicketDevices ∧
      maxOf 32 ≤ ticket.deviceEpoch

/-- Later the contract keeps no more devices. -/
theorem keptDevices_later (ticket : Ticket) {time : Nat} (hfrom : env.blockTimestampMs ≤ time)
    (key : String) :
    (keptDevices (atTime env time) ticket key).length ≤ (keptDevices env ticket key).length := by
  apply List.Sublist.length_le
  apply List.monotone_filter_right
  intro device hdevice
  simp only [atTime, Bool.and_eq_true, decide_eq_true_eq, gt_iff_lt] at hdevice ⊢
  exact ⟨hfrom.trans_lt hdevice.1, hdevice.2⟩

/-- The devices `add_device` keeps at `time`, on the ticket. -/
def keptAt (env : MarketV2.Env) (ticket : Ticket) (key : String) (time : Nat) : Ticket :=
  { ticket with devices := keptDevices (atTime env time) ticket key }

/-- What `add_device` did with an accepted link: it evicted, and announced the new device last. -/
theorem submit_ok (h : AcceptedDevice env s args check ticket) {time : Nat}
    {o : Outcome TicketDevice} (ho : submit env s args time = .ok o) :
    ∃ evicted events, evictOldest args.ticketId (keptAt env ticket args.sessionPublicKey time) =
      .ok (evicted, events) ∧ revokedSessions o.events = revokedSessions events := by
  simp only [submit, addDevice, h.playable, ok_bind, bind_eq_ok, pure_eq_ok] at ho
  obtain ⟨_, -, _, -, _, -, _, -, ⟨evicted, events⟩, hevicted, device, -, _, -, rfl⟩ := ho
  refine ⟨evicted, events, hevicted, ?_⟩
  simp [revokedSessions, emitMarketV2Event, List.filterMap_append]

/-- On an accepted link `add_device` goes through when the eviction does. -/
theorem submit_of_evicted (hnow : env.blockTimestampMs ≤ maxTimeMs)
    (hbalance : env.accountBalance ≤ maxOf 128) (hroom : DeviceRoom env s)
    (h : AcceptedDevice env s args check ticket) {time : Nat}
    (hfrom : env.blockTimestampMs ≤ time) (hto : time < env.blockTimestampMs + expiryMarginMs)
    {evicted : Ticket} {events : List Event}
    (hevicted : evictOldest args.ticketId (keptAt env ticket args.sessionPublicKey time) =
      .ok (evicted, events)) : ∃ o, submit env s args time = .ok o := by
  obtain ⟨sessionKey, hsessionKey⟩ := h.sessionKey
  obtain ⟨status, hstatus, hrunway⟩ := h.runway
  let device : TicketDevice := {
    sessionPublicKey := args.sessionPublicKey
    certificateSha256 := args.certificateSha256
    authorizedAtMs := time
    expiresAtMs := time + playbackDeviceLifetimeMs }
  have hdevice : newTicketDevice (atTime env time) args.sessionPublicKey args.certificateSha256 =
      .ok device := by
    simp only [maxTimeMs, expiryMarginMs] at hnow hto
    simp only [newTicketDevice, bind_eq_ok, checkedAdd_eq_ok, pure_eq_ok]
    refine ⟨_, ⟨?_, rfl⟩, rfl⟩
    have hmax : maxOf 64 = 18446744073709551615 := rfl
    simp only [atTime, playbackDeviceLifetimeMs]
    omega
  -- The ticket that is stored is the ticket with other devices and another epoch.
  have hchanged : evicted = { ticket with
        devices := evicted.devices
        deviceEpoch := evicted.deviceEpoch } ∧
      evicted.devices.Sublist ticket.devices := by
    have hkept := keptDevices_sublist (atTime env time) ticket args.sessionPublicKey
    rcases evictOldest_cases hevicted with ⟨oldest, rest, hdevices, -, rfl⟩ | ⟨-, rfl⟩
    · refine ⟨rfl, ?_⟩
      have hrest : rest.Sublist (oldest :: rest) := List.sublist_cons_self _ _
      exact hrest.trans (hdevices ▸ hkept)
    · exact ⟨rfl, hkept⟩
  have hrunway' : assertRunway (atTime env time)
      (withDevices s args.ticketId ticket (evicted.devices ++ [device]) evicted.deviceEpoch)
      publicTestnetBetaEmergencyRunwayBytes = .ok ⟨⟩ :=
    assertRunway_of_room (s := s) hbalance hstatus hrunway
      (hroom args.ticketId ticket device evicted.devices _ h.stored hchanged.2 h.sessionText
        h.certificate) rfl
  simp only [submit, addDevice, h.playable, ok_bind, bind_eq_ok, pure_eq_ok]
  refine ⟨_, sessionKey, hsessionKey, ⟨⟩, assertSha256_of_isHexText h.certificate, ⟨⟩,
    h.signed time hfrom hto.le, ⟨⟩, h.epoch, (evicted, events), hevicted, device, hdevice, ⟨⟩, ?_, rfl⟩
  rw [hchanged.1]
  exact hrunway'

theorem keptAt_now (env : MarketV2.Env) (ticket : Ticket) (key : String) :
    keptAt env ticket key env.blockTimestampMs =
      { ticket with devices := keptDevices env ticket key } := rfl

/-- At any time of the window the eviction goes through, unless it needs an epoch past the last. -/
theorem evictOldest_keptAt (hfew : ticket.devices.length ≤ MarketV2.maxTicketDevices)
    (hstored : s.tickets.get args.ticketId = some ticket) (hepoch : ¬ EpochExhausted env s args)
    {time : Nat} (hfrom : env.blockTimestampMs ≤ time) :
    ∃ evicted events, evictOldest args.ticketId (keptAt env ticket args.sessionPublicKey time) =
      .ok (evicted, events) := by
  have hkept := (keptDevices_sublist (atTime env time) ticket args.sessionPublicKey).length_le
  rcases evictOldest_kept args.ticketId (keptAt env ticket args.sessionPublicKey time)
      (hkept.trans hfew) with
    ⟨-, hevict⟩ | ⟨oldest, rest, -, hfull, hevict⟩
  · exact ⟨_, _, hevict⟩
  · have hlater := keptDevices_later ticket hfrom args.sessionPublicKey
    have hnow := (keptDevices_sublist env ticket args.sessionPublicKey).length_le
    have hfull : (keptDevices (atTime env time) ticket args.sessionPublicKey).length =
        MarketV2.maxTicketDevices := hfull
    have hroom : ticket.deviceEpoch + 1 ≤ maxOf 32 := by
      by_contra hlast
      exact hepoch ⟨ticket, hstored, by omega, by omega⟩
    exact ⟨_, _, (hevict _).mpr ⟨hroom, rfl⟩⟩

/-- The eviction at the time of the check is the one the relayer reports. -/
theorem revokedSessions_evicted (hfew : ticket.devices.length ≤ MarketV2.maxTicketDevices)
    (h : AcceptedDevice env s args check ticket) {evicted : Ticket} {events : List Event}
    (hevicted : evictOldest args.ticketId
      (keptAt env ticket args.sessionPublicKey env.blockTimestampMs) = .ok (evicted, events)) :
    revokedSessions events = check.evicts.toList := by
  have hkept := (keptDevices_sublist env ticket args.sessionPublicKey).length_le
  rw [keptAt_now] at hevicted
  rw [h.evicts]
  rcases evictOldest_kept args.ticketId
      { ticket with devices := keptDevices env ticket args.sessionPublicKey }
      (hkept.trans hfew) with ⟨hroom, hevict⟩ | ⟨oldest, rest, hdevices, hfull, hevict⟩
  · obtain ⟨-, rfl⟩ := Prod.mk.inj (Except.ok.inj (hevict.symm.trans hevicted))
    have hroom : (keptDevices env ticket args.sessionPublicKey).length < maxTicketDevices := hroom
    rw [if_neg (Nat.not_le.mpr hroom)]
    rfl
  · have hdevices : keptDevices env ticket args.sessionPublicKey = oldest :: rest := hdevices
    have hfull : maxTicketDevices ≤ (keptDevices env ticket args.sessionPublicKey).length :=
      hfull.ge
    rw [if_pos hfull, hdevices]
    obtain ⟨-, heq⟩ := (hevict _).mp hevicted
    obtain ⟨-, rfl⟩ := Prod.mk.inj heq
    rfl

/-- For an accepted link that is not listed, the relayer's answer is what the contract does within the
minute exactly when no eviction needs an epoch past the last. -/
theorem device_mirrors_iff (hagrees : Agrees platform env.toHost)
    (hnow : env.blockTimestampMs ≤ maxTimeMs) (hbalance : env.accountBalance ≤ maxOf 128)
    (hroom : DeviceRoom env s)
    (hfew : ∀ ticket, s.tickets.get args.ticketId = some ticket →
      ticket.devices.length ≤ MarketV2.maxTicketDevices)
    (h : checkAddDeviceArgs platform (marketView env s)
      ⟨env.currentAccountId, args, env.blockTimestampMs⟩ = .ok check)
    (hlisted : check.listed = false) :
    Mirrors env s args check ↔ ¬ EpochExhausted env s args := by
  obtain ⟨ticket, haccepted⟩ := checkAddDeviceArgs_ok hagrees hnow h hlisted
  have hfew := hfew ticket haccepted.stored
  constructor
  · rintro hmirrors ⟨other, hother, hfull, hlast⟩
    obtain rfl := Option.some.inj (haccepted.stored.symm.trans hother)
    obtain ⟨o, ho⟩ := hmirrors.succeeds env.blockTimestampMs le_rfl
      (Nat.lt_add_of_pos_right (by decide))
    obtain ⟨evicted, events, hevicted, -⟩ := submit_ok haccepted ho
    rw [keptAt_now] at hevicted
    rcases evictOldest_kept args.ticketId
        { ticket with devices := keptDevices env ticket args.sessionPublicKey }
        hfull.le with ⟨hroom, -⟩ | ⟨oldest, rest, -, -, hevict⟩
    · exact absurd hfull hroom.ne
    · have hnext := ((hevict _).mp hevicted).1
      exact absurd hlast (Nat.not_le.mpr hnext)
  · intro hepoch
    constructor
    · intro time hfrom hto
      obtain ⟨evicted, events, hevicted⟩ := evictOldest_keptAt hfew haccepted.stored hepoch hfrom
      exact submit_of_evicted hnow hbalance hroom haccepted hfrom hto hevicted
    · intro o ho
      obtain ⟨evicted, events, hevicted, hevents⟩ := submit_ok haccepted ho
      rw [hevents]
      exact revokedSessions_evicted hfew haccepted hevicted
    · rw [haccepted.renewal]
      constructor
      · intro hown
        exact ⟨ticket, haccepted.stored, hown⟩
      · rintro ⟨other, hother, hown⟩
        obtain rfl := Option.some.inj (haccepted.stored.symm.trans hother)
        exact hown

end Device

namespace Vectors

open MarketV2.Vectors (Key Signature contractId publicationId issuedAtMs expiresAtMs certificate
  creatorId secondSession)

def linkKey : Key where
  base58 := "FXYqqMtnKo1wgFysNBntVjx4Q84uvWneU4jWUMuL5xsP"
  bytes :=
    [215, 215, 11, 137, 53, 233, 187, 36, 184, 137, 130, 17, 244, 117, 189, 127, 80, 139, 230, 115,
     173, 69, 168, 72, 90, 151, 127, 2, 6, 82, 16, 246]

def linkTicketId : String := "ad0efb2622d9a61b5c48c1f2d26d20a3044232fa492cb18e16478e1eba209289"

/-- The SHA-256 of the key. -/
def linkTicketIdBytes : Bytes :=
  [173, 14, 251, 38, 34, 217, 166, 27, 92, 72, 193, 242, 210, 109, 32, 163, 4, 66, 50, 250, 73,
     44, 177, 142, 22, 71, 142, 30, 186, 32, 146, 137]

def linkLines (deviceEpoch : String) : List String :=
  ["add_device", linkTicketId, expiresAtMs, secondSession.text, certificate, deviceEpoch]

def firstEpochSignature : Signature where
  base64 :=
    "5dMtFEyQfFqGQHkZ5nURoq+wELLwMqbTrAzSB/ufveQ9U/WTyvc4Cv8vNDkTZ8sVfWo7IM2tvWiP7XvLOUtaCw=="
  bytes :=
    [229, 211, 45, 20, 76, 144, 124, 90, 134, 64, 121, 25, 230, 117, 17, 162, 175, 176, 16, 178,
     240, 50, 166, 211, 172, 12, 210, 7, 251, 159, 189, 228, 61, 83, 245, 147, 202, 247, 56, 10,
     255, 47, 52, 57, 19, 103, 203, 21, 125, 106, 59, 32, 205, 173, 189, 104, 143, 237, 123, 203,
     57, 75, 90, 11]
  key := linkKey
  domain := ticketSignatureDomain
  lines := linkLines "0"

def lastEpochSignature : Signature where
  base64 :=
    "xtPwrhgvjfGARveJHZ49cenVoInOOWrg7qnc5nnLYnpWovybLnHg2e38JJfEwpA2lwYOzs+aDY9ZyKr7kqyJAQ=="
  bytes :=
    [198, 211, 240, 174, 24, 47, 141, 241, 128, 70, 247, 137, 29, 158, 61, 113, 233, 213, 160, 137,
     206, 57, 106, 224, 238, 169, 220, 230, 121, 203, 98, 122, 86, 162, 252, 155, 46, 113, 224, 217,
     237, 252, 36, 151, 196, 194, 144, 54, 151, 6, 14, 206, 207, 154, 13, 143, 89, 200, 170, 251,
     146, 172, 137, 1]
  key := linkKey
  domain := ticketSignatureDomain
  lines := linkLines "4294967295"

/-- The host of the Market's vectors that knows the ticket key and its two signatures as well. -/
def linkHost : Host :=
  { MarketV2.Vectors.host with
    sha256 := fun bytes =>
      if bytes = linkKey.bytes then linkTicketIdBytes else MarketV2.Vectors.host.sha256 bytes
    ed25519Verify := fun signature message publicKey =>
      [firstEpochSignature, lastEpochSignature].any fun s =>
        decide (s.bytes = signature ∧ s.message = message ∧ s.key.bytes = publicKey)
    bs58Encode := fun bytes =>
      if bytes = linkKey.bytes then linkKey.base58 else MarketV2.Vectors.host.bs58Encode bytes
    bs58Decode := fun text =>
      if text = linkKey.base58 then some linkKey.bytes else MarketV2.Vectors.host.bs58Decode text
    base64Decode := Base64.standardDecode }

def linkPlatform : Platform where
  jsonParse _ := none
  baseDecode := linkHost.bs58Decode
  baseEncode := linkHost.bs58Encode
  sha256 := linkHost.sha256
  verify := linkHost.ed25519Verify

/-- A published video. -/
def video : Publication where
  publicationId := publicationId
  creatorId := creatorId
  title := "Opening night"
  priceUsdc := 5000000
  generation := 1
  expectedSourceBytes := 734003200
  profileId := profile
  profileConfigSha256 := legacyUploadProfileHash
  assetIdHash := certificate
  playbackId := "playback-001"
  projectIdHash := certificate
  verifiedSourceBytes := 734003200
  providerSourceFingerprint := none
  readyAtMs := issuedAtMs
  publishedAvailability := .active
  availability := .active
  publishedAtMs := issuedAtMs

def linkedDevice (key : Key) : TicketDevice where
  sessionPublicKey := key.text
  certificateSha256 := certificate
  authorizedAtMs := issuedAtMs - dayMs
  expiresAtMs := issuedAtMs + dayMs

/-- A ticket with three devices at the given epoch. -/
def linkedTicket (deviceEpoch : Nat) : Ticket where
  ticketId := linkTicketId
  ticketPublicKey := linkKey.text
  publicationId := publicationId
  creatorId := creatorId
  rail := .crypto
  status := .watchedInEscrow
  grossUsdcMicro := 5000000
  vatUsdcMicro := 833334
  platformUsdcMicro := 208333
  creatorUsdcMicro := 3958333
  vatKeyVersion := 1
  purchasedAtMs := issuedAtMs - dayMs
  deviceEpoch := deviceEpoch
  devices := [MarketV2.Vectors.cardKey, MarketV2.Vectors.vatKey, MarketV2.Vectors.firstSession].map
    linkedDevice
  card := none

/-- A contract with the video and the ticket. -/
def linkState (c : Contract) (deviceEpoch : Nat) : Contract :=
  { c with
    publications := c.publications.insert publicationId video
    tickets := c.tickets.insert linkTicketId (linkedTicket deviceEpoch) }

def linkArgs (deviceEpoch : String) (signature : Signature) : AddDeviceArgs where
  ticketId := linkTicketId
  sessionPublicKey := secondSession.text
  certificateSha256 := certificate
  deviceEpoch := deviceEpoch
  expiresAtMs := expiresAtMs
  signature := signature.base64

def linkEnv : MarketV2.Env := ⟨linkHost, MarketV2.Vectors.context "relayer.testnet" issuedAtMs⟩

/-- The oldest of the three devices goes. -/
def linkCheck : DeviceCheck := ⟨false, false, some MarketV2.Vectors.cardKey.text⟩

theorem linkAgrees : Agrees linkPlatform linkHost := ⟨rfl, rfl, rfl, rfl, fun _ _ _ _ _ => rfl⟩

theorem linkRoom (s : Contract) : DeviceRoom linkEnv s := by
  intro _ _ _ _ _ _ _ _ _
  exact Nat.le_add_right _ _

theorem linkFew (c : Contract) (deviceEpoch : Nat) (ticket : Ticket)
    (h : (linkState c deviceEpoch).tickets.get linkTicketId = some ticket) :
    ticket.devices.length ≤ MarketV2.maxTicketDevices := by
  obtain rfl := Option.some.inj ((LookupMap.get_insert_self _ _ _).symm.trans h)
  exact le_rfl

/-- The check and the call in the two states. -/
theorem link_run : (MarketV2.Vectors.initialised linkHost).toOption.map (fun c =>
    ((checkAddDeviceArgs linkPlatform (marketView linkEnv (linkState c 0))
        ⟨contractId, linkArgs "0" firstEpochSignature, issuedAtMs⟩).toOption,
      (checkAddDeviceArgs linkPlatform (marketView linkEnv (linkState c 4294967295))
        ⟨contractId, linkArgs "4294967295" lastEpochSignature, issuedAtMs⟩).toOption,
      (submit linkEnv (linkState c 4294967295) (linkArgs "4294967295" lastEpochSignature)
        issuedAtMs).isOk)) = some (some linkCheck, some linkCheck, false) := by
  decide +kernel

end Vectors

/-- At the last epoch the relayer announces the eviction and the contract refuses the call. -/
theorem device_refused :
    ∃ c, MarketV2.Vectors.initialised Vectors.linkHost = .ok c ∧
      Agrees Vectors.linkPlatform Vectors.linkHost ∧
      DeviceRoom Vectors.linkEnv (Vectors.linkState c 4294967295) ∧
      (∀ ticket, (Vectors.linkState c 4294967295).tickets.get Vectors.linkTicketId = some ticket →
        ticket.devices.length ≤ MarketV2.maxTicketDevices) ∧
      checkAddDeviceArgs Vectors.linkPlatform
        (marketView Vectors.linkEnv (Vectors.linkState c 4294967295))
        ⟨MarketV2.Vectors.contractId, Vectors.linkArgs "4294967295" Vectors.lastEpochSignature,
          MarketV2.Vectors.issuedAtMs⟩ = .ok Vectors.linkCheck ∧
      ¬ Mirrors Vectors.linkEnv (Vectors.linkState c 4294967295)
        (Vectors.linkArgs "4294967295" Vectors.lastEpochSignature) Vectors.linkCheck := by
  obtain ⟨c, hc, hfacts⟩ := Option.map_eq_some_iff.mp Vectors.link_run
  simp only [Prod.mk.injEq] at hfacts
  obtain ⟨-, hcheck, hrefused⟩ := hfacts
  refine ⟨c, Vectors.eq_ok_of_toOption hc, Vectors.linkAgrees, Vectors.linkRoom _,
    Vectors.linkFew c _, Vectors.eq_ok_of_toOption hcheck, ?_⟩
  intro hmirrors
  obtain ⟨o, ho⟩ := hmirrors.succeeds MarketV2.Vectors.issuedAtMs le_rfl
    (Nat.lt_add_of_pos_right (by decide))
  rw [ho] at hrefused
  cases hrefused

/-- At the first epoch the contract does what the relayer announces. -/
theorem device_mirrors_first :
    ∃ c, MarketV2.Vectors.initialised Vectors.linkHost = .ok c ∧
      Mirrors Vectors.linkEnv (Vectors.linkState c 0)
        (Vectors.linkArgs "0" Vectors.firstEpochSignature) Vectors.linkCheck := by
  obtain ⟨c, hc, hfacts⟩ := Option.map_eq_some_iff.mp Vectors.link_run
  simp only [Prod.mk.injEq] at hfacts
  refine ⟨c, Vectors.eq_ok_of_toOption hc, ?_⟩
  refine (device_mirrors_iff Vectors.linkAgrees (by decide) (by decide) (Vectors.linkRoom _)
    (Vectors.linkFew c 0) (Vectors.eq_ok_of_toOption hfacts.1) rfl).mpr ?_
  rintro ⟨ticket, hticket, -, hlast⟩
  obtain rfl := Option.some.inj ((LookupMap.get_insert_self _ _ _).symm.trans hticket)
  exact absurd hlast (by decide)

end Youtick.Relayer
