import Youtick.Web.DeviceLinks

/-!
# Web: a link evicts with consent

A signed link that executes takes at most one unexpired device off the ticket, the oldest of three.
When no other device was added since the ticket was read for the signature, the three are the three
that were read, and the run signed only because the viewer had agreed to replace the oldest.

A signature that is submitted again finds its own device last, as long as nothing else was added
since, and leaves the list and its order as they are.
-/

set_option autoImplicit false

namespace Youtick.Web

open Youtick.Lib
open Youtick.MarketV2 (Host Call Context Ticket TicketDevice World worldStep keptDevices)
open Youtick.Relayer (TicketView DeviceView AddDeviceArgs ticketView deviceView)

/-! ## What a link takes -/

section Takes

variable {env : MarketV2.Env} {args : AddDeviceArgs} {old new : Ticket}

/-- The first of exactly three keys. -/
def oldestOfThree : List String → Option String
  | [] => none
  | oldest :: rest => if rest.length + 1 = MarketV2.maxTicketDevices then some oldest else none

/-- The device a link of `key` would replace now. -/
def replaced (env : MarketV2.Env) (ticket : Ticket) (key : String) : Option String :=
  oldestOfThree ((keptDevices env ticket key).map (·.sessionPublicKey))

/-- The keys of the unexpired devices, in their order. -/
def listed (nowMs : Nat) (ticket : Ticket) : List String :=
  (ticket.devices.filter fun device => decide (nowMs < device.expiresAtMs)).map (·.sessionPublicKey)

/-- An unexpired device that a link takes off the ticket is the one it replaces. -/
theorem AddsDevice.replaced_of_gone (h : AddsDevice env args old new) {device : TicketDevice}
    (hdevice : device ∈ old.devices) (hactive : env.blockTimestampMs < device.expiresAtMs)
    (hgone : device.sessionPublicKey ∉ new.keys) :
    replaced env old args.sessionPublicKey = some device.sessionPublicKey ∧
      (keptDevices env old args.sessionPublicKey).length = MarketV2.maxTicketDevices := by
  obtain ⟨evicted, events, own, hevicted, hkey, -, -, rfl⟩ := h.devices
  rw [Ticket.keys, List.map_append, List.mem_append, not_or] at hgone
  obtain ⟨hgone, hother⟩ := hgone
  have hkept : device ∈ keptDevices env old args.sessionPublicKey := by
    apply List.mem_filter.mpr ⟨hdevice, ?_⟩
    simpa [hactive, hkey] using hother
  rcases MarketV2.evictOldest_cases hevicted with ⟨oldest, rest, hdevices, hfull, rfl⟩ | ⟨-, rfl⟩
  · have hdevices : keptDevices env old args.sessionPublicKey = oldest :: rest := hdevices
    rw [hdevices] at hkept
    rcases List.mem_cons.mp hkept with rfl | hrest
    · refine ⟨?_, by rw [hdevices]; exact hfull⟩
      simp [replaced, hdevices, oldestOfThree, hfull]
    · exact absurd (List.mem_map_of_mem hrest) hgone
  · exact absurd (List.mem_map_of_mem hkept) hgone

end Takes

/-! ## The plan of a full ticket -/

theorem activeDevices_eq {ticket : Ticket} {nowMs : Nat} (hnow : nowMs ≤ PaymentService.maxTimeMs)
    (hactive : ∀ device ∈ ticket.devices, nowMs < device.expiresAtMs) :
    activeDevices (ticketView ticket) nowMs = ticket.devices.map deviceView := by
  apply List.filter_eq_self.mpr
  intro view hview
  obtain ⟨device, hdevice, rfl⟩ := List.mem_map.mp hview
  have hlt := (Relayer.lt_toDouble_iff hnow).mpr (hactive device hdevice)
  simpa [deviceView, PaymentService.number_decimal] using hlt

/-- Three unexpired devices of others: a link would replace the first. -/
theorem devicePlan_full {ticket : Ticket} {key : String} {nowMs : Nat} {oldest : TicketDevice}
    {rest : List TicketDevice} (hnow : nowMs ≤ PaymentService.maxTimeMs)
    (hdevices : ticket.devices = oldest :: rest) (hfull : rest.length + 1 = 3)
    (hactive : ∀ device ∈ ticket.devices, nowMs < device.expiresAtMs)
    (hothers : ∀ device ∈ ticket.devices, device.sessionPublicKey ≠ key) :
    devicePlan (ticketView ticket) key nowMs = .link (some (deviceView oldest)) := by
  have hactives := activeDevices_eq hnow hactive
  have hown : (activeDevices (ticketView ticket) nowMs).find?
      (fun device => device.sessionPublicKey == key) = none := by
    rw [hactives, List.find?_eq_none]
    intro view hview
    obtain ⟨device, hdevice, rfl⟩ := List.mem_map.mp hview
    simpa [deviceView] using hothers device hdevice
  unfold devicePlan
  dsimp only
  rw [hown, hactives, hdevices]
  simp [maxTicketDevices, hfull]

theorem keptDevices_eq (env : MarketV2.Env) (ticket : Ticket) (key : String) :
    keptDevices env ticket key =
      (others key ticket.devices).filter fun device =>
        decide (device.expiresAtMs > env.blockTimestampMs) := by
  rw [others, List.filter_filter]
  rfl

/-! ## Consent -/

section Consent

variable {env : MarketV2.Env} {old new : Ticket} {link : SignedLink}

/-- A link that takes an unexpired device off a ticket whose others were read for its signature. -/
theorem SignedLink.Planned.allowed (h : link.Planned) (hadds : AddsDevice env link.args old new)
    (hfew : link.ticket.devices.length ≤ MarketV2.maxTicketDevices)
    (hsub : (others link.args.sessionPublicKey old.devices).Sublist
      (others link.args.sessionPublicKey link.ticket.devices))
    (hclock : ∀ device ∈ link.ticket.devices, env.blockTimestampMs < device.expiresAtMs →
      link.nowMs < device.expiresAtMs)
    {device : TicketDevice} (hdevice : device ∈ old.devices)
    (hactive : env.blockTimestampMs < device.expiresAtMs)
    (hgone : device.sessionPublicKey ∉ new.keys) :
    link.allowEvict = some device.sessionPublicKey := by
  obtain ⟨hreplaced, hlength⟩ := hadds.replaced_of_gone hdevice hactive hgone
  -- the three devices the contract keeps are the three that were read
  have hkept : (keptDevices env old link.args.sessionPublicKey).Sublist link.ticket.devices := by
    rw [keptDevices_eq]
    exact (List.filter_sublist.trans hsub).trans List.filter_sublist
  have hread : keptDevices env old link.args.sessionPublicKey = link.ticket.devices :=
    hkept.eq_of_length_le (hfew.trans hlength.symm.le)
  have hmem : ∀ other ∈ link.ticket.devices, env.blockTimestampMs < other.expiresAtMs ∧
      other.sessionPublicKey ≠ link.args.sessionPublicKey := by
    intro other hother
    rw [← hread] at hother
    simpa using (List.mem_filter.mp hother).2
  cases hdevices : link.ticket.devices with
  | nil =>
    rw [hread, hdevices] at hlength
    cases hlength
  | cons oldest rest =>
    have hfull : rest.length + 1 = 3 := by
      rw [hread, hdevices] at hlength
      exact hlength
    have hplan := devicePlan_full h.clock hdevices hfull
      (fun other hother => hclock other hother (hmem other hother).1)
      (fun other hother => (hmem other hother).2)
    have hconsent := h.consent
    rw [hplan] at hconsent
    have holdest : replaced env old link.args.sessionPublicKey =
        some oldest.sessionPublicKey := by
      rw [replaced, hread, hdevices]
      simp [oldestOfThree, hfull, MarketV2.maxTicketDevices]
    rw [← hreplaced, holdest]
    exact hconsent.symm

end Consent

/-! ## The same signature again -/

section Again

variable {env : MarketV2.Env} {args : AddDeviceArgs} {old new : Ticket}

/-- Exactly three keys are needed for an eviction. -/
theorem oldestOfThree_short {keys : List String} (h : keys.length ≤ 2) :
    oldestOfThree keys = none := by
  cases keys with
  | nil => rfl
  | cons oldest rest =>
    have hrest : rest.length + 1 ≠ MarketV2.maxTicketDevices := by
      simp only [List.length_cons, MarketV2.maxTicketDevices] at h ⊢
      omega
    simp [oldestOfThree, hrest]

/-- The ticket's own last device is added again. -/
theorem AddsDevice.again (h : AddsDevice env args old new)
    (hsound : MarketV2.DevicesSound env.blockTimestampMs old.devices) {front : List TicketDevice}
    {own : TicketDevice} (hdevices : old.devices = front ++ [own])
    (hown : own.sessionPublicKey = args.sessionPublicKey) :
    ∃ device, new.devices = (front.filter fun device =>
        decide (env.blockTimestampMs < device.expiresAtMs)) ++ [device] ∧
      device.sessionPublicKey = args.sessionPublicKey ∧
      device.expiresAtMs = env.blockTimestampMs + MarketV2.playbackDeviceLifetimeMs := by
  obtain ⟨evicted, events, device, hevicted, hkey, -, hexpires, rfl⟩ := h.devices
  have hdistinct := hsound.distinct
  rw [hdevices, List.map_append, List.nodup_append] at hdistinct
  have hfront : ∀ other ∈ front, other.sessionPublicKey ≠ args.sessionPublicKey := by
    intro other hother
    rw [← hown]
    exact hdistinct.2.2 _ (List.mem_map_of_mem hother) _ (by simp)
  have hkept : keptDevices env old args.sessionPublicKey = front.filter fun device =>
      decide (env.blockTimestampMs < device.expiresAtMs) := by
    rw [keptDevices_eq, hdevices, others, List.filter_append]
    have hself : front.filter (fun device =>
        decide (device.sessionPublicKey ≠ args.sessionPublicKey)) = front :=
      List.filter_eq_self.mpr fun other hother => by simpa using hfront other hother
    rw [hself]
    simp [hown]
  rcases MarketV2.evictOldest_cases hevicted with ⟨oldest, rest, hfull, hlength, -⟩ | ⟨-, rfl⟩
  · -- two others at most are left, so nothing is evicted
    have hfull : keptDevices env old args.sessionPublicKey = oldest :: rest := hfull
    have hfew := hsound.few
    rw [hdevices, List.length_append, List.length_singleton] at hfew
    have hle : (oldest :: rest).length ≤ front.length := by
      rw [← hfull, hkept]
      exact List.length_filter_le _ _
    rw [List.length_cons, hlength] at hle
    omega
  · exact ⟨device, by rw [hkept], hkey, hexpires⟩

/-- Added again while it is active, the device changes neither the list nor what is replaced next. -/
theorem AddsDevice.unchanged (h : AddsDevice env args old new)
    (hsound : MarketV2.DevicesSound env.blockTimestampMs old.devices)
    (htimed : MarketV2.DevicesTimed old.devices) {front : List TicketDevice} {own : TicketDevice}
    (hdevices : old.devices = front ++ [own])
    (hown : own.sessionPublicKey = args.sessionPublicKey)
    (hactive : env.blockTimestampMs < own.expiresAtMs) :
    listed env.blockTimestampMs new = listed env.blockTimestampMs old ∧
      ∀ (later : MarketV2.Env) (key : String), env.blockTimestampMs ≤ later.blockTimestampMs →
        replaced later new key = replaced later old key := by
  obtain ⟨device, hnew, hkey, hexpires⟩ := h.again hsound hdevices hown
  have howned : own ∈ old.devices := by simp [hdevices]
  have hlifetime : 0 < MarketV2.playbackDeviceLifetimeMs := by decide
  constructor
  · have hdevice : env.blockTimestampMs < device.expiresAtMs := by omega
    simp [listed, hnew, hdevices, List.filter_append, List.filter_filter, hactive, hdevice, hkey,
      hown]
  · intro later key hlater
    have hkept : ∀ list : List TicketDevice, (list.filter fun other =>
          decide (env.blockTimestampMs < other.expiresAtMs)).filter (fun other =>
            decide (other.expiresAtMs > later.blockTimestampMs) &&
              decide (other.sessionPublicKey ≠ key)) =
        list.filter fun other => decide (other.expiresAtMs > later.blockTimestampMs) &&
          decide (other.sessionPublicKey ≠ key) := by
      intro list
      rw [List.filter_filter]
      congr 1
      funext other
      by_cases hother : other.expiresAtMs > later.blockTimestampMs
      · have hnow : env.blockTimestampMs < other.expiresAtMs := by omega
        simp [hnow]
      · simp [hother]
    unfold replaced keptDevices
    rw [hnew, hdevices, List.filter_append, List.filter_append, hkept]
    by_cases hlive : own.expiresAtMs > later.blockTimestampMs
    · -- its new expiry is no earlier than the one it had
      have hpast := hsound.past own howned
      have hterm := htimed own howned
      have hdevice : device.expiresAtMs > later.blockTimestampMs := by omega
      by_cases hsame : args.sessionPublicKey = key
      · simp [hkey, hown, hsame]
      · simp [hkey, hown, hsame, hlive, hdevice]
    · -- the others were authorized before it and have expired with it
      have hordered := hsound.ordered
      rw [hdevices, List.map_append, List.pairwise_append] at hordered
      have hfront : front.filter (fun other => decide (other.expiresAtMs >
          later.blockTimestampMs) && decide (other.sessionPublicKey ≠ key)) = [] := by
        apply List.filter_eq_nil_iff.mpr
        intro other hother
        have hmem : other ∈ old.devices := by simp [hdevices, hother]
        have hbefore := hordered.2.2 _ (List.mem_map_of_mem hother) own.authorizedAtMs (by simp)
        have hterm := htimed other hmem
        have hterm' := htimed own howned
        have hexpired : ¬ other.expiresAtMs > later.blockTimestampMs := by omega
        simp [hexpired]
      rw [hfront]
      rw [oldestOfThree_short, oldestOfThree_short]
      · simp [hlive]
      · rw [List.nil_append, List.length_map]
        exact (List.length_filter_le _ _).trans (by simp)

end Again

/-! ## Every link -/

section Every

variable {host : Host} {codec : Codec} {w₀ w w' : LinkWorld} {ctx : Context} {link : SignedLink}

/-- What the execution of a signed link did to the ticket it names: an unexpired device is gone only
if it is the one the viewer agreed to replace. -/
def EvictsWithConsent (nowMs : Nat) (link : SignedLink) (before after : World) : Prop :=
  ∀ old, before.ticket link.args.ticketId = some old →
    ∃ new, after.ticket link.args.ticketId = some new ∧
      ∀ device ∈ old.devices, nowMs < device.expiresAtMs → device.sessionPublicKey ∉ new.keys →
        link.allowEvict = some device.sessionPublicKey

/-- The execution leaves the listed devices and what a later link would replace. -/
def LeavesDevices (host : Host) (ctx : Context) (link : SignedLink) (before after : World) : Prop :=
  ∀ old, before.ticket link.args.ticketId = some old →
    ∃ new, after.ticket link.args.ticketId = some new ∧
      listed ctx.blockTimestampMs new = listed ctx.blockTimestampMs old ∧
      ∀ (later : Context) (key : String), ctx.blockTimestampMs ≤ later.blockTimestampMs →
        replaced ⟨host, later⟩ new key = replaced ⟨host, later⟩ old key

/-- When the link finds the ticket full, nobody else's device was added since the read it was signed
on, and what is unexpired now had not expired by the clock of that read. -/
def ReadHolds (host : Host) (ctx : Context) (link : SignedLink) (w : LinkWorld) : Prop :=
  ∀ old, w.market.ticket link.args.ticketId = some old →
    (keptDevices ⟨host, ctx⟩ old link.args.sessionPublicKey).length = MarketV2.maxTicketDevices →
      OnlyKey (w.added.drop link.mark) link.args.ticketId link.args.sessionPublicKey ∧
      ∀ device ∈ link.ticket.devices, ctx.blockTimestampMs < device.expiresAtMs →
        link.nowMs < device.expiresAtMs

/-- The link was submitted before, and nobody else's device was added since. -/
def SubmittedLast (link : SignedLink) (w : LinkWorld) : Prop :=
  ∃ before entry since, w.added = before ++ entry :: since ∧ entry.args = link.args ∧
    OnlyKey since link.args.ticketId link.args.sessionPublicKey

/-- The ticket a link executes on has the epoch that was read. -/
theorem AddsDevice.epoch_eq {env : MarketV2.Env} {old new : Ticket}
    (h : AddsDevice env link.args old new) {epoch : Nat}
    (hlink : MarketV2.parseCanonicalDecimal "device_epoch" link.args.deviceEpoch (maxOf 32) =
      .ok epoch) : old.deviceEpoch = epoch := by
  obtain ⟨parsed, hparse, hepoch⟩ := bind_eq_ok.mp h.epoch
  obtain rfl := Except.ok.inj (hparse.symm.trans hlink)
  exact (require_eq_ok.mp hepoch).symm

theorem SignedLink.Planned.epoch_eq {env : MarketV2.Env} {old new : Ticket} (h : link.Planned)
    (hadds : AddsDevice env link.args old new) : old.deviceEpoch = link.ticket.deviceEpoch := by
  obtain ⟨parsed, hparse, hepoch⟩ := bind_eq_ok.mp hadds.epoch
  have htext := (MarketV2.parseCanonicalDecimal_ok hparse).1
  rw [h.epoch] at htext
  exact (require_eq_ok.mp hepoch).symm.trans (decimal_injective htext)

/-- A link executes on the ticket or leaves the storage as it was. -/
theorem link_step {market market' : World} {args : AddDeviceArgs}
    (h : worldStep host market (.call ctx (addDeviceCall args)) market') :
    market'.contract = market.contract ∨ ∃ o,
      Call.run ⟨host, ctx⟩ market.contract (addDeviceCall args) = .ok o := by
  cases World.step_cases h with
  | ran hdelivery _ hrun =>
    cases hdelivery
    exact .inr ⟨_, hrun⟩
  | panicked => exact .inl rfl

theorem LinkWorld.Sound.consented (h : w.Sound) (hlink : link ∈ w.signed)
    (hstep : LinkWorld.Step host codec w (.market (.call ctx (addDeviceCall link.args))) w')
    (hread : ReadHolds host ctx link w) :
    EvictsWithConsent ctx.blockTimestampMs link w.market w'.market := by
  obtain ⟨market, hmarket, rfl⟩ := Option.map_eq_some_iff.mp hstep
  have hmarket : worldStep host w.market (.call ctx (addDeviceCall link.args)) market := hmarket
  obtain ⟨hplanned, hfollows⟩ := h.links link hlink
  intro old hold
  rcases link_step hmarket with hsame | ⟨o, hrun⟩
  · refine ⟨old, ?_, ?_⟩
    · rw [World.ticket, hsame]
      exact hold
    · intro device hdevice _ hgone
      exact absurd (List.mem_map_of_mem hdevice) hgone
  · obtain ⟨old', new, hold', hnew, hadds⟩ := added_change hmarket hrun
    obtain rfl := Option.some.inj (hold.symm.trans hold')
    refine ⟨new, hnew, ?_⟩
    intro device hdevice hactive hgone
    obtain ⟨-, hfull⟩ := hadds.replaced_of_gone hdevice hactive hgone
    obtain ⟨honly, hclock⟩ := hread old hold hfull
    obtain ⟨ticket, hticket, -, hsub⟩ := hfollows.kept honly
    obtain rfl := Option.some.inj (hold.symm.trans hticket)
    exact hplanned.allowed hadds hfollows.few (hsub (hplanned.epoch_eq hadds)) hclock hdevice
      hactive hgone

/-- The device of a signature still in force is active if it was added on that signature. -/
theorem active_of_expiry {text : String} {atMs nowMs expires expires' : Nat} {own : TicketDevice}
    (hadded : MarketV2.parseSignatureExpiry text atMs = .ok expires)
    (hnow : MarketV2.parseSignatureExpiry text nowMs = .ok expires')
    (howned : atMs ≤ own.authorizedAtMs)
    (hterm : own.expiresAtMs = own.authorizedAtMs + MarketV2.playbackDeviceLifetimeMs) :
    nowMs < own.expiresAtMs := by
  simp only [MarketV2.parseSignatureExpiry, MarketV2.parseSignatureExpiryWithin, bind_eq_ok,
    require_eq_ok, pure_eq_ok] at hadded hnow
  obtain ⟨_, hparse, -, -, -, hfar, rfl⟩ := hadded
  obtain ⟨_, hparse', -, hlate, -, -, rfl⟩ := hnow
  obtain rfl := Except.ok.inj (hparse.symm.trans hparse')
  simp only [MarketV2.maxSignatureTtlMs, MarketV2.playbackDeviceLifetimeMs] at hfar hterm
  omega

theorem LinkWorld.Sound.unchanged (h : w.Sound)
    (hstep : LinkWorld.Step host codec w (.market (.call ctx (addDeviceCall link.args))) w')
    (hlast : SubmittedLast link w) : LeavesDevices host ctx link w.market w'.market := by
  obtain ⟨market, hmarket, rfl⟩ := Option.map_eq_some_iff.mp hstep
  have hmarket : worldStep host w.market (.call ctx (addDeviceCall link.args)) market := hmarket
  obtain ⟨before, entry, since, hadded, hargs, honly⟩ := hlast
  have hentry : entry ∈ w.added := by simp [hadded]
  have hsubmitted := h.submitted before entry since hadded
  unfold Submitted at hsubmitted
  rw [hargs] at hsubmitted
  intro old hold
  rcases link_step hmarket with hsame | ⟨o, hrun⟩
  · refine ⟨old, ?_, rfl, fun _ _ _ => rfl⟩
    rw [World.ticket, hsame]
    exact hold
  · obtain ⟨old', new, hold', hnew, hadds⟩ := added_change hmarket hrun
    obtain rfl := Option.some.inj (hold.symm.trans hold')
    refine ⟨new, hnew, ?_⟩
    rcases hsubmitted honly with ⟨e, he, hsettled⟩ | ⟨ticket, epoch, hticket, hparse, -, hends⟩
    · -- a settled ticket takes no device
      obtain ⟨settled, hget, hstatus⟩ := hsettled.ticket
      obtain rfl := Option.some.inj (hold.symm.trans hget)
      have hplayable := hadds.playable
      rw [hstatus] at hplayable
      cases e with
      | refund => exact absurd rfl hplayable.ne.1
      | release => exact absurd rfl he
      | void => exact absurd rfl hplayable.ne.2
    · obtain rfl := Option.some.inj (hold.symm.trans hticket)
      obtain ⟨front, own, hdevices, hkey, howned⟩ := hends (hadds.epoch_eq hparse)
      obtain ⟨expires, hexpires⟩ := h.expiries entry hentry
      rw [hargs] at hexpires
      obtain ⟨_, -, hsigned, -⟩ := MarketV2.addDevice_signed hrun
      obtain ⟨expires', hexpires', -⟩ := bind_eq_ok.mp hsigned
      have hmem : own ∈ old.devices := by simp [hdevices]
      have hactive := active_of_expiry hexpires hexpires' howned
        (h.timed _ old hold own hmem)
      have hnow : w.market.now ≤ ctx.blockTimestampMs := by
        rw [← (state_of_run hmarket hrun).2]
        exact World.step_now hmarket
      obtain ⟨hlisted, hreplaced⟩ := hadds.unchanged
        ((h.market.devices _ old hold).sublist (List.Sublist.refl _) hnow)
        (h.timed _ old hold) hdevices hkey hactive
      exact ⟨hlisted, fun later key hlater => hreplaced ⟨host, later⟩ key hlater⟩

/-- In every run: a link whose read still holds where it finds the ticket full evicts nobody the
viewer did not agree to replace, and a link that was the last to be submitted changes neither the
listed devices nor what a later link replaces. -/
theorem link_evicts_with_consent {tr : List (Transition LinkWorld LinkLabel)}
    (h₀ : LinkWorld.Initial host w₀) (h : Trace (LinkWorld.Step host codec) w₀ tr w)
    (hlink : link ∈ w.signed)
    (hstep : LinkWorld.Step host codec w (.market (.call ctx (addDeviceCall link.args))) w') :
    (ReadHolds host ctx link w →
      EvictsWithConsent ctx.blockTimestampMs link w.market w'.market) ∧
    (SubmittedLast link w → LeavesDevices host ctx link w.market w'.market) := by
  have hsound := h₀.sound.trace h
  exact ⟨hsound.consented hlink hstep, hsound.unchanged hstep⟩

end Every

end Youtick.Web
