import Youtick.MarketV2.DeviceTerms
import Youtick.Web.Devices

/-!
# Web: device links in a shared world

Runs of `linkDevice` beside the Market. A read of a ticket is answered by the contract's state at
some moment and reaches the run later; everybody may call the Market in between, with the arguments a
run signed or with others. The world keeps every signature of a run with the read it was made on,
and every `add_device` that went through; nothing reads either.

`Follows` is what a read still says of the ticket: as long as only one session key was added since,
the other devices of the ticket are among those read, unless its epoch has moved. `Submitted` is what
an added device still says: as long as only its key was added since, it is the ticket's last device,
unless the epoch has moved or the ticket is settled.
-/

set_option autoImplicit false

namespace Youtick.Web

open Youtick.Lib
open Youtick.MarketV2 (Host Contract Context Call World Label Ticket TicketDevice Settled Settlement
  TicketChange worldStep keptDevices Event evictOldest)
open Youtick.Relayer (TicketView DeviceView AddDeviceArgs ticketView deviceView)

/-! ## The world -/

/-- The call a signed link is submitted with. -/
def addDeviceCall (args : AddDeviceArgs) : Call :=
  .addDevice args.ticketId args.sessionPublicKey args.certificateSha256 args.deviceEpoch
    args.expiresAtMs args.signature

/-- An `add_device` that went through. -/
structure Added where
  args : AddDeviceArgs
  atMs : Nat

/-- The answer of a read: the ticket, and how many devices had been added by then. -/
structure Snapshot where
  ticket : Option Ticket
  mark : Nat

structure LinkRun where
  input : LinkInput
  phase : Phase
  answer : Option Snapshot

/-- A signature of a run, with the ticket and the clock it was made on. -/
structure SignedLink where
  args : AddDeviceArgs
  allowEvict : Option String
  ticket : Ticket
  nowMs : Nat
  mark : Nat

structure LinkWorld where
  market : World
  runs : List LinkRun
  signed : List SignedLink
  added : List Added

inductive LinkLabel where
  /-- A run begins. -/
  | opened (input : LinkInput)
  /-- The chain answers the read of run `i`. -/
  | viewed (i : Nat)
  /-- The answer reaches run `i`, whose clock shows `nowMs`, and `signMs` when it signs. -/
  | read (i nowMs signMs : Nat)
  /-- The relayer answers run `i`, or is out of reach. -/
  | relayed (i : Nat) (answer : Option Relayed)
  /-- Something happens at the Market. -/
  | market (label : Label)

/-- The device a Market label adds. -/
def addedBy (host : Host) (w : World) : Label → List Added
  | .call ctx (.addDevice ticketId key certificate epoch expiresAtMs signature) =>
    match Call.run ⟨host, ctx⟩ w.contract
        (.addDevice ticketId key certificate epoch expiresAtMs signature) with
    | .ok _ => [⟨⟨ticketId, key, certificate, epoch, expiresAtMs, signature⟩,
        ctx.blockTimestampMs⟩]
    | .error _ => []
  | _ => []

/-- What a run makes of an answered read. -/
def LinkRun.onAnswer (codec : Codec) (run : LinkRun) (snapshot : Snapshot) (nowMs signMs : Nat) :
    Option (LinkRun × List SignedLink) :=
  let read := snapshot.ticket.map ticketView
  match run.phase with
  | .reading attempt =>
    match onRead codec run.input attempt read nowMs signMs with
    | .error code => some (⟨run.input, .failed code, none⟩, [])
    | .ok (.inl ticket) => some (⟨run.input, .returned ticket, none⟩, [])
    | .ok (.inr args) =>
      some (⟨run.input, .relaying attempt, none⟩, snapshot.ticket.toList.map fun ticket =>
        ⟨args, run.input.allowEvict, ticket, nowMs, snapshot.mark⟩)
  | .confirming listed left =>
    some (⟨run.input, onConfirmRead run.input listed left read nowMs, none⟩, [])
  | _ => none

/-- What a run makes of an answer of the relayer. -/
def LinkRun.onRelayer (run : LinkRun) (answer : Option Relayed) : Option LinkRun :=
  match run.phase with
  | .relaying attempt =>
    some { run with
      phase := onRelayed attempt (answer.bind Relayed.deviceRequestId) 0 answer }
  | .polling attempt requestId poll =>
    some { run with phase := onRelayed attempt requestId poll answer }
  | _ => none

def Phase.reads : Phase → Bool
  | .reading _ => true
  | .confirming _ _ => true
  | _ => false

namespace LinkWorld

variable (host : Host) (codec : Codec)

/-- One step; `none` when the label is not enabled. -/
def exec (w : LinkWorld) : LinkLabel → Option LinkWorld
  | .opened input => some { w with runs := w.runs ++ [⟨input, .reading 0, none⟩] }
  | .viewed i =>
    match w.runs[i]? with
    | some run =>
      if run.phase.reads ∧ run.answer.isNone then
        some { w with
          runs := w.runs.set i { run with
            answer := some ⟨w.market.ticket run.input.ticketId, w.added.length⟩ } }
      else none
    | none => none
  | .read i nowMs signMs =>
    match w.runs[i]? with
    | some run =>
      if nowMs ≤ PaymentService.maxTimeMs then
        run.answer.bind fun snapshot =>
          (run.onAnswer codec snapshot nowMs signMs).map fun next =>
            { w with
              runs := w.runs.set i next.1
              signed := w.signed ++ next.2 }
      else none
    | none => none
  | .relayed i answer =>
    match w.runs[i]? with
    | some run => (run.onRelayer answer).map fun next => { w with runs := w.runs.set i next }
    | none => none
  | .market label =>
    (w.market.exec host label).map fun next =>
      { w with
        market := next
        added := w.added ++ addedBy host w.market label }

abbrev Step : LinkWorld → LinkLabel → LinkWorld → Prop := ExecStep (exec host codec)

/-- A world right after the Market's deployment, before the first run. -/
structure Initial (w : LinkWorld) : Prop where
  market : MarketV2.Initial host w.market
  runs : w.runs = []
  signed : w.signed = []
  added : w.added = []

end LinkWorld

/-! ## What a read still says -/

/-- The devices with another key. -/
def others (key : String) (devices : List TicketDevice) : List TicketDevice :=
  devices.filter fun device => decide (device.sessionPublicKey ≠ key)

/-- Among these only `key` was added to the ticket. -/
def OnlyKey (entries : List Added) (ticketId key : String) : Prop :=
  ∀ entry ∈ entries, entry.args.ticketId = ticketId → entry.args.sessionPublicKey = key

/-- The last device of the ticket has this key and was authorized not before `atMs`. -/
def EndsWith (ticket : Ticket) (key : String) (atMs : Nat) : Prop :=
  ∃ front own, ticket.devices = front ++ [own] ∧ own.sessionPublicKey = key ∧
    atMs ≤ own.authorizedAtMs

/-- What a ticket read at `mark` still says, as far as only `key` was added since. -/
structure Follows (market : World) (added : List Added) (mark : Nat) (ticketId key : String)
    (read : Ticket) : Prop where
  few : read.devices.length ≤ MarketV2.maxTicketDevices
  bound : mark ≤ added.length
  kept : OnlyKey (added.drop mark) ticketId key →
    ∃ ticket, market.ticket ticketId = some ticket ∧ read.deviceEpoch ≤ ticket.deviceEpoch ∧
      (ticket.deviceEpoch = read.deviceEpoch →
        (others key ticket.devices).Sublist (others key read.devices))

/-- What an added device still says, as far as only its key was added since. -/
def Submitted (market : World) (entry : Added) (since : List Added) : Prop :=
  OnlyKey since entry.args.ticketId entry.args.sessionPublicKey →
    (∃ e : Settlement, e ≠ .release ∧ Settled entry.args.ticketId e market) ∨
    ∃ ticket epoch, market.ticket entry.args.ticketId = some ticket ∧
      MarketV2.parseCanonicalDecimal "device_epoch" entry.args.deviceEpoch (maxOf 32) = .ok epoch ∧
      epoch ≤ ticket.deviceEpoch ∧ (ticket.deviceEpoch = epoch →
        EndsWith ticket entry.args.sessionPublicKey entry.atMs)

/-! ## One change of a ticket -/

section Change

variable {host : Host} {w w' : World} {l : Label} {k key : String} {old new ticket : Ticket}
variable {args : AddDeviceArgs} {ctx : Context}

/-- What an `add_device` that went through made of the ticket. -/
structure AddsDevice (env : MarketV2.Env) (args : AddDeviceArgs) (old new : Ticket) : Prop where
  playable : old.status.Playable
  epoch : MarketV2.assertDeviceEpoch old args.deviceEpoch = .ok ⟨⟩
  devices : ∃ evicted events device,
    evictOldest args.ticketId { old with
      devices := keptDevices env old args.sessionPublicKey } = .ok (evicted, events) ∧
    device.sessionPublicKey = args.sessionPublicKey ∧
    device.authorizedAtMs = env.blockTimestampMs ∧
    device.expiresAtMs = env.blockTimestampMs + MarketV2.playbackDeviceLifetimeMs ∧
    new = { evicted with devices := evicted.devices ++ [device] }

theorem AddsDevice.ofStep {env : MarketV2.Env} {s : Contract} {c : Call} {flow : MarketV2.Flow}
    (h : MarketV2.TicketStep env s c k (some old) new flow) (hc : c = addDeviceCall args) :
    AddsDevice env args old new := by
  cases h with
  | @deviceAdded _ _ _ _ _ _ _ evicted events device hplayable hepoch hevicted hdevice =>
    obtain ⟨rfl, rfl, -, rfl, -, -⟩ := Call.addDevice.inj hc
    obtain rfl := MarketV2.newTicketDevice_ok hdevice
    exact ⟨hplayable, hepoch, evicted, events, _, hevicted, rfl, rfl, rfl, rfl⟩
  | deviceRevoked h =>
    rcases h with ⟨_, _, _, h, -⟩ | h
    · cases h.symm.trans hc
    · cases h.symm.trans hc
  | watched | refundStarted | released | voided | refundFinished | refundRestored => cases hc

/-- The Market adds a device or it does not. -/
theorem addedBy_cases (host : Host) (w : World) (l : Label) :
    addedBy host w l = [] ∨ ∃ ctx args o, l = .call ctx (addDeviceCall args) ∧
      Call.run ⟨host, ctx⟩ w.contract (addDeviceCall args) = .ok o ∧
      addedBy host w l = [⟨args, ctx.blockTimestampMs⟩] := by
  unfold addedBy
  split
  · rename_i ctx k key certificate epoch expiresAtMs signature
    split
    · rename_i o hrun
      exact .inr ⟨ctx, ⟨k, key, certificate, epoch, expiresAtMs, signature⟩, o, rfl, hrun, rfl⟩
    · exact .inl rfl
  · exact .inl rfl

theorem addedBy_of_run (args : AddDeviceArgs) {o : MarketV2.Outcome Unit}
    (h : Call.run ⟨host, ctx⟩ w.contract (addDeviceCall args) = .ok o) :
    addedBy host w (.call ctx (addDeviceCall args)) = [⟨args, ctx.blockTimestampMs⟩] := by
  simp only [addDeviceCall] at h
  simp [addedBy, addDeviceCall, h]

/-- A call that went through left its storage. -/
theorem state_of_run {c : Call} {o : MarketV2.Outcome Unit}
    (h : worldStep host w (.call ctx c) w') (hrun : c.run ⟨host, ctx⟩ w.contract = .ok o) :
    w'.contract = o.state ∧ w'.now = ctx.blockTimestampMs := by
  cases World.step_cases h with
  | ran hdelivery _ hrun' =>
    cases hdelivery
    cases hrun'.symm.trans hrun
    exact ⟨rfl, rfl⟩
  | panicked hdelivery _ hrun' =>
    cases hdelivery
    cases hrun'.symm.trans hrun

theorem added_change {o : MarketV2.Outcome Unit}
    (h : worldStep host w (.call ctx (addDeviceCall args)) w')
    (hrun : Call.run ⟨host, ctx⟩ w.contract (addDeviceCall args) = .ok o) :
    ∃ old new, w.ticket args.ticketId = some old ∧ w'.ticket args.ticketId = some new ∧
      AddsDevice ⟨host, ctx⟩ args old new := by
  obtain ⟨hstate, -⟩ := state_of_run h hrun
  obtain ⟨_, -, hbody⟩ := bind_eq_ok.mp hrun
  obtain ⟨added, hadded, hvoid⟩ := bind_eq_ok.mp hbody
  obtain rfl := pure_eq_ok.mp hvoid
  obtain ⟨old, new, hold, hstep, hinsert, -⟩ := MarketV2.addDevice_ok hadded
  refine ⟨old, new, hold, ?_, .ofStep hstep rfl⟩
  rw [World.ticket, hstate, MarketV2.Outcome.void, hinsert]
  exact LookupMap.get_insert_self _ _ _

/-- The callback of a successful refund was delivered by its receipt. -/
theorem refundFinished_of_change {receiverId : String} {amount : Nat}
    {restoreStatus : Option MarketV2.TicketStatus} {flow : MarketV2.Flow}
    (h : TicketChange host w l w' k ctx
      (.callback (.onTicketRefund k receiverId amount restoreStatus)) new flow)
    (hresult : ctx.promiseResults = [.successful]) : MarketV2.RefundFinished k ⟨w, l, w'⟩ := by
  obtain ⟨rest, hdelivery⟩ := h.delivery
  obtain ⟨o, hrun, -⟩ := h.ran
  cases hdelivery with
  | external hext =>
    obtain ⟨-, -, hbody⟩ := bind_eq_ok.mp hrun
    obtain ⟨_, hcallback, -⟩ := bind_eq_ok.mp hbody
    rw [hext (MarketV2.runCallback_private hcallback)] at hresult
    cases hresult
  | @callback ctx i promise ok _ hget hcallback =>
    have hok : ok = true := by
      cases ok with
      | true => rfl
      | false => cases hresult
    subst hok
    refine ⟨ctx, i, promise, rfl, hget, ?_⟩
    rw [MarketV2.Promise.refundedTicket, MarketV2.Promise.refund, hcallback]
    rfl

/-- Where no device is added, the devices of a ticket stay, or go with an advance of the epoch, or
go for good. -/
theorem quiet_change (hs : w.DevicesSound) (hstep : worldStep host w l w')
    (hold : w.ticket k = some old)
    (hquiet : ∀ entry ∈ addedBy host w l, entry.args.ticketId ≠ k) :
    ∃ new, w'.ticket k = some new ∧ old.deviceEpoch ≤ new.deviceEpoch ∧
      (new.deviceEpoch = old.deviceEpoch → new.devices.Sublist old.devices ∧
        (new.devices = old.devices ∨ ∃ e : Settlement, e ≠ .release ∧ Settled k e w')) := by
  rcases hs.ticket_cases hstep k with hsame | ⟨ctx, c, new, flow, hchange⟩
  · exact ⟨old, hsame.trans hold, le_rfl, fun _ => ⟨List.Sublist.refl _, .inl rfl⟩⟩
  · refine ⟨new, hchange.ticket, ?_⟩
    have hticketStep := hchange.step
    rw [hold] at hticketStep
    refine ⟨hticketStep.epoch_le (hs.devices k old hold).few, ?_⟩
    intro hepoch
    cases hticketStep with
    | @deviceAdded _ key certificate epoch expiresAtMs signature =>
      obtain rfl := hchange.external (by simp) (by simp)
      obtain ⟨o, hrun, -⟩ := hchange.ran
      have hadded := addedBy_of_run ⟨k, key, certificate, epoch, expiresAtMs, signature⟩ hrun
      exact absurd rfl (hquiet _ (hadded ▸ List.mem_singleton_self _))
    | deviceRevoked _ => exact absurd hepoch (Nat.succ_ne_self _)
    | voided _ _ =>
      refine ⟨List.nil_sublist _, .inr ⟨.void, by decide, ?_⟩⟩
      exact (hs.step hstep).settled_voided hchange.ticket rfl
    | refundFinished hresult =>
      refine ⟨List.nil_sublist _, .inr ⟨.refund, by decide, ?_⟩⟩
      exact ((refundFinished_of_change hchange hresult).emptied hs.toSound hstep).1
    | watched | refundStarted | released | refundRestored =>
      exact ⟨List.Sublist.refl _, .inl rfl⟩

theorem others_sublist (key : String) {devices kept : List TicketDevice}
    (h : kept.Sublist devices) : (others key kept).Sublist (others key devices) :=
  h.filter _

/-- An added device goes to the end, and takes nothing but the oldest of the others. -/
theorem AddsDevice.after {env : MarketV2.Env} (h : AddsDevice env args old new)
    (hfew : old.devices.length ≤ MarketV2.maxTicketDevices) :
    old.deviceEpoch ≤ new.deviceEpoch ∧
      (others args.sessionPublicKey new.devices).Sublist
        (others args.sessionPublicKey old.devices) ∧
      EndsWith new args.sessionPublicKey env.blockTimestampMs := by
  obtain ⟨evicted, events, device, hevicted, hkey, hat, -, rfl⟩ := h.devices
  obtain ⟨hsub, -, hepoch⟩ := MarketV2.evicted_devices hevicted hfew
  refine ⟨hepoch, ?_, evicted.devices, device, rfl, hkey, hat.symm.le⟩
  have hown : others args.sessionPublicKey (evicted.devices ++ [device]) =
      others args.sessionPublicKey evicted.devices := by
    simp [others, hkey]
  rw [hown]
  exact others_sublist _ (hsub.trans (MarketV2.keptDevices_sublist env old _))

end Change

/-! ## What a Market step leaves -/

section Follow

variable {host : Host} {w w' : World} {l : Label} {added : List Added} {mark : Nat}
variable {k key : String} {read : Ticket}

theorem OnlyKey.append_iff {first second : List Added} :
    OnlyKey (first ++ second) k key ↔ OnlyKey first k key ∧ OnlyKey second k key := by
  simp only [OnlyKey, List.mem_append, or_imp, forall_and]

/-- A step that adds nothing to the ticket but the key: the others stay, or the epoch advances. -/
theorem step_cases (hs : w.DevicesSound) (hstep : worldStep host w l w') {old : Ticket}
    (hold : w.ticket k = some old) (hkey : OnlyKey (addedBy host w l) k key) :
    ∃ new, w'.ticket k = some new ∧ old.deviceEpoch ≤ new.deviceEpoch ∧
      (new.deviceEpoch = old.deviceEpoch →
        (others key new.devices).Sublist (others key old.devices)) ∧
      (EndsWith new key w'.now ∨ (new.deviceEpoch = old.deviceEpoch →
        new.devices = old.devices ∨ ∃ e : Settlement, e ≠ .release ∧ Settled k e w')) := by
  rcases addedBy_cases host w l with hnone | ⟨ctx, args, o, rfl, hrun, hadded⟩
  · obtain ⟨new, hnew, hle, hsame⟩ := quiet_change hs hstep hold (by simp [hnone])
    exact ⟨new, hnew, hle, fun hepoch => others_sublist key (hsame hepoch).1,
      .inr fun hepoch => (hsame hepoch).2⟩
  · by_cases hk : args.ticketId = k
    · obtain rfl := hkey _ (hadded ▸ List.mem_singleton_self _) hk
      subst hk
      obtain ⟨old', new, hold', hnew, hadds⟩ := added_change hstep hrun
      obtain rfl := Option.some.inj (hold.symm.trans hold')
      obtain ⟨hle, hsub, hends⟩ := hadds.after (hs.devices _ _ hold).few
      obtain ⟨-, hnow⟩ := state_of_run hstep hrun
      exact ⟨new, hnew, hle, fun _ => hsub, .inl (hnow ▸ hends)⟩
    · obtain ⟨new, hnew, hle, hsame⟩ := quiet_change hs hstep hold (by simp [hadded, hk])
      exact ⟨new, hnew, hle, fun hepoch => others_sublist key (hsame hepoch).1,
        .inr fun hepoch => (hsame hepoch).2⟩

theorem Follows.market (hs : w.DevicesSound) (h : Follows w added mark k key read)
    (hstep : worldStep host w l w') :
    Follows w' (added ++ addedBy host w l) mark k key read := by
  refine ⟨h.few, ?_, ?_⟩
  · rw [List.length_append]
    exact h.bound.trans (Nat.le_add_right _ _)
  · intro honly
    rw [List.drop_append_of_le_length h.bound] at honly
    obtain ⟨hbefore, hnew⟩ := OnlyKey.append_iff.mp honly
    obtain ⟨old, hold, hle, hsub⟩ := h.kept hbefore
    obtain ⟨new, hticket, hle', hsub', -⟩ := step_cases hs hstep hold hnew
    refine ⟨new, hticket, hle.trans hle', ?_⟩
    intro hepoch
    have hold' : old.deviceEpoch = read.deviceEpoch := by omega
    exact (hsub' (hepoch.trans hold'.symm)).trans (hsub hold')

/-- A ticket just read says everything. -/
theorem Follows.refl (hs : w.DevicesSound) (hread : w.ticket k = some read) :
    Follows w added added.length k key read where
  few := (hs.devices k read hread).few
  bound := le_rfl
  kept := fun _ => ⟨read, hread, le_rfl, fun _ => List.Sublist.refl _⟩

theorem Submitted.market {entry : Added} {since : List Added} (hs : w.DevicesSound)
    (hpast : entry.atMs ≤ w.now) (h : Submitted w entry since) (hstep : worldStep host w l w') :
    Submitted w' entry (since ++ addedBy host w l) := by
  intro honly
  obtain ⟨hbefore, hnew⟩ := OnlyKey.append_iff.mp honly
  rcases h hbefore with ⟨e, he, hsettled⟩ | ⟨old, epoch, hold, hparse, hle, hends⟩
  · exact .inl ⟨e, he, hsettled.step hs.toSound hstep⟩
  · obtain ⟨new, hticket, hle', -, hafter⟩ := step_cases hs hstep hold hnew
    by_cases hepoch : new.deviceEpoch = epoch
    · have hold' : old.deviceEpoch = epoch := by omega
      rcases hafter with ⟨front, own, hdevices, hkey, howned⟩ | hsame
      · right
        refine ⟨new, epoch, hticket, hparse, hle.trans hle', fun _ => ?_⟩
        exact ⟨front, own, hdevices, hkey, (hpast.trans (World.step_now hstep)).trans howned⟩
      · rcases hsame (hepoch.trans hold'.symm) with hdevices | hsettled
        · right
          obtain ⟨front, own, hfront, hkey, howned⟩ := hends hold'
          exact ⟨new, epoch, hticket, hparse, hle.trans hle', fun _ =>
            ⟨front, own, hdevices.trans hfront, hkey, howned⟩⟩
        · exact .inl hsettled
    · right
      exact ⟨new, epoch, hticket, hparse, hle.trans hle', fun hsame => absurd hsame hepoch⟩

/-- A device just added. -/
theorem Submitted.ofAdded (hs : w.DevicesSound) (hstep : worldStep host w l w') :
    ∀ entry ∈ addedBy host w l, Submitted w' entry [] := by
  intro entry hentry _
  rcases addedBy_cases host w l with hnone | ⟨ctx, args, o, rfl, hrun, hadded⟩
  · simp [hnone] at hentry
  · rw [hadded] at hentry
    obtain rfl := List.mem_singleton.mp hentry
    obtain ⟨old, new, hold, hnew, hadds⟩ := added_change hstep hrun
    obtain ⟨hle, -, hends⟩ := hadds.after (hs.devices _ _ hold).few
    obtain ⟨epoch, hparse, hepoch⟩ := bind_eq_ok.mp hadds.epoch
    obtain rfl := (require_eq_ok.mp hepoch)
    exact .inr ⟨new, _, hnew, hparse, hle, fun _ => hends⟩

end Follow

/-! ## Signatures -/

section Signing

variable {codec : Codec} {input : LinkInput} {attempt nowMs signMs : Nat} {view : TicketView}
variable {args : AddDeviceArgs}

/-- The plan asks for no consent, or has it. -/
def Consented (allowEvict : Option String) : DevicePlan → Prop
  | .link (some evicts) => some evicts.sessionPublicKey = allowEvict
  | _ => True

/-- What a run signs. -/
theorem onRead_signed
    (h : onRead codec input attempt (some view) nowMs signMs = .ok (.inr args)) :
    args.ticketId = input.ticketId ∧ args.sessionPublicKey = input.sessionPublicKey ∧
      args.deviceEpoch = decimal view.deviceEpoch ∧
      Consented input.allowEvict (devicePlan view input.sessionPublicKey nowMs) := by
  have hsign : ∀ {r : Result (TicketView ⊕ AddDeviceArgs)}, r = .ok (.inr args) →
      r = (do
        let expiresAtMs ← signatureExpiry signMs
        let args ← buildAddDeviceArgs codec input (decimal view.deviceEpoch) expiresAtMs
        return .inr args) →
      args.ticketId = input.ticketId ∧ args.sessionPublicKey = input.sessionPublicKey ∧
        args.deviceEpoch = decimal view.deviceEpoch := by
    rintro r hr rfl
    simp only [buildAddDeviceArgs, bind_eq_ok, pure_eq_ok] at hr
    obtain ⟨_, -, _, ⟨_, -, rfl⟩, hargs⟩ := hr
    cases hargs
    exact ⟨rfl, rfl, rfl⟩
  unfold onRead at h
  dsimp only at h
  cases hplan : devicePlan view input.sessionPublicKey nowMs with
  | watch expiresAtMs =>
    rw [hplan] at h
    dsimp only at h
    split at h
    · cases h
    · obtain ⟨hid, hkey, hepoch⟩ := hsign h rfl
      exact ⟨hid, hkey, hepoch, trivial⟩
  | renew expiresAtMs =>
    rw [hplan] at h
    obtain ⟨hid, hkey, hepoch⟩ := hsign h rfl
    exact ⟨hid, hkey, hepoch, trivial⟩
  | link evicts =>
    rw [hplan] at h
    cases evicts with
    | none =>
      obtain ⟨hid, hkey, hepoch⟩ := hsign h rfl
      exact ⟨hid, hkey, hepoch, trivial⟩
    | some evicts =>
      dsimp only at h
      split at h
      · cases h
      · rename_i hconsent
        obtain ⟨hid, hkey, hepoch⟩ := hsign h rfl
        exact ⟨hid, hkey, hepoch, not_not.mp hconsent⟩

/-- The read a signature was made on allowed it. -/
structure SignedLink.Planned (link : SignedLink) : Prop where
  epoch : link.args.deviceEpoch = decimal link.ticket.deviceEpoch
  clock : link.nowMs ≤ PaymentService.maxTimeMs
  consent : Consented link.allowEvict
    (devicePlan (ticketView link.ticket) link.args.sessionPublicKey link.nowMs)

end Signing

/-! ## Runs -/

section Runs

variable {host : Host} {codec : Codec} {w w' : LinkWorld} {l : LinkLabel}

structure LinkWorld.Sound (w : LinkWorld) : Prop where
  market : w.market.DevicesSound
  timed : w.market.DevicesTimed
  past : ∀ entry ∈ w.added, entry.atMs ≤ w.market.now
  expiries : ∀ entry ∈ w.added, ∃ expires,
    MarketV2.parseSignatureExpiry entry.args.expiresAtMs entry.atMs = .ok expires
  answers : ∀ run ∈ w.runs, ∀ snapshot, run.answer = some snapshot →
    ∀ ticket, snapshot.ticket = some ticket →
      Follows w.market w.added snapshot.mark run.input.ticketId run.input.sessionPublicKey ticket
  submitted : ∀ before entry since, w.added = before ++ entry :: since →
    Submitted w.market entry since
  links : ∀ link ∈ w.signed, link.Planned ∧
    Follows w.market w.added link.mark link.args.ticketId link.args.sessionPublicKey link.ticket

theorem LinkWorld.Initial.sound (h : LinkWorld.Initial host w) : w.Sound := by
  constructor
  · exact h.market.devicesSound
  · exact h.market.devicesTimed
  · simp [h.added]
  · simp [h.added]
  · simp [h.runs]
  · intro before entry since heq
    simp [h.added] at heq
  · simp [h.signed]

/-- An `add_device` that went through was signed for no more than an hour. -/
theorem addedBy_expiry (host : Host) (w : World) (l : Label) :
    ∀ entry ∈ addedBy host w l, ∃ expires,
      MarketV2.parseSignatureExpiry entry.args.expiresAtMs entry.atMs = .ok expires := by
  rcases addedBy_cases host w l with hnone | ⟨ctx, args, o, -, hrun, hadded⟩
  · simp [hnone]
  · intro entry hentry
    rw [hadded] at hentry
    obtain rfl := List.mem_singleton.mp hentry
    obtain ⟨ticket, -, hsigned, -⟩ := MarketV2.addDevice_signed hrun
    simp only [MarketV2.verifyTicketAction, bind_eq_ok] at hsigned
    obtain ⟨expires, hexpires, -⟩ := hsigned
    exact ⟨expires, hexpires⟩

theorem addedBy_now {market market' : World} {label : Label}
    (h : worldStep host market label market') :
    ∀ entry ∈ addedBy host market label, entry.atMs ≤ market'.now := by
  rcases addedBy_cases host market label with hnone | ⟨ctx, args, o, rfl, hrun, hadded⟩
  · simp [hnone]
  · intro entry hentry
    rw [hadded] at hentry
    obtain rfl := List.mem_singleton.mp hentry
    exact (state_of_run h hrun).2.symm.le

theorem addedBy_length (host : Host) (w : World) (l : Label) :
    (addedBy host w l).length ≤ 1 := by
  rcases addedBy_cases host w l with hnone | ⟨ctx, args, o, -, -, hone⟩
  · simp [hnone]
  · simp [hone]

/-- An entry of a list that grew by at most one was there before, or is the new one. -/
theorem entry_cases {entries new before since : List Added} {entry : Added}
    (hnew : new.length ≤ 1) (h : entries ++ new = before ++ entry :: since) :
    (∃ earlier, entries = before ++ entry :: earlier ∧ since = earlier ++ new) ∨
      (entry ∈ new ∧ since = []) := by
  rcases List.append_eq_append_iff.mp h with ⟨gap, rfl, hrest⟩ | ⟨gap, rfl, hrest⟩
  · right
    have hlength := congrArg List.length hrest
    rw [List.length_append, List.length_cons] at hlength
    refine ⟨by simp [hrest], List.length_eq_zero_iff.mp (by omega)⟩
  · cases gap with
    | nil =>
      right
      rw [List.nil_append] at hrest
      have hlength := congrArg List.length hrest
      rw [List.length_cons] at hlength
      exact ⟨by simp [← hrest], List.length_eq_zero_iff.mp (by omega)⟩
    | cons x gap =>
      left
      obtain ⟨rfl, rfl⟩ := List.cons.inj hrest
      exact ⟨gap, rfl, rfl⟩

/-- Replacing one run by another with the same answer, or with none. -/
theorem LinkWorld.Sound.replace (h : w.Sound) {i : Nat} {run next : LinkRun}
    (hrun : w.runs[i]? = some run)
    (hnext : next.answer = none ∨ (next.answer = run.answer ∧ next.input = run.input)) :
    ∀ other ∈ w.runs.set i next, ∀ snapshot, other.answer = some snapshot →
      ∀ ticket, snapshot.ticket = some ticket →
        Follows w.market w.added snapshot.mark other.input.ticketId other.input.sessionPublicKey
          ticket := by
  intro other hother snapshot hanswer ticket hticket
  rcases List.mem_or_eq_of_mem_set hother with hmem | rfl
  · exact h.answers other hmem snapshot hanswer ticket hticket
  · rcases hnext with hnone | ⟨hsame, hinput⟩
    · cases hnone.symm.trans hanswer
    · rw [hinput]
      exact h.answers run (List.mem_of_getElem? hrun) snapshot (hsame.symm.trans hanswer) ticket
        hticket

/-- What an answered read leaves: a run without an answer, and signatures planned on it. -/
theorem LinkRun.onAnswer_spec {run next : LinkRun} {snapshot : Snapshot} {nowMs signMs : Nat}
    {signed : List SignedLink} (hnow : nowMs ≤ PaymentService.maxTimeMs)
    (h : run.onAnswer codec snapshot nowMs signMs = some (next, signed)) :
    next.answer = none ∧ ∀ link ∈ signed, link.Planned ∧ snapshot.ticket = some link.ticket ∧
      link.mark = snapshot.mark ∧ link.args.ticketId = run.input.ticketId ∧
      link.args.sessionPublicKey = run.input.sessionPublicKey := by
  unfold LinkRun.onAnswer at h
  dsimp only at h
  split at h
  · split at h
    · cases h
      exact ⟨rfl, by simp⟩
    · cases h
      exact ⟨rfl, by simp⟩
    · rename_i args hread
      cases h
      refine ⟨rfl, ?_⟩
      intro link hlink
      obtain ⟨ticket, hticket, rfl⟩ := List.mem_map.mp hlink
      have hticket : snapshot.ticket = some ticket := by simpa using hticket
      rw [hticket] at hread
      obtain ⟨hid, hkey, hepoch, hconsent⟩ := onRead_signed hread
      refine ⟨⟨hepoch, hnow, ?_⟩, hticket, rfl, hid, hkey⟩
      rw [hkey]
      exact hconsent
  · cases h
    exact ⟨rfl, by simp⟩
  · cases h

theorem LinkWorld.Sound.read (h : w.Sound) {i nowMs signMs : Nat}
    (hstep : LinkWorld.Step host codec w (.read i nowMs signMs) w') : w'.Sound := by
  unfold LinkWorld.Step ExecStep LinkWorld.exec at hstep
  dsimp only at hstep
  split at hstep
  · rename_i run hrun
    split at hstep
    · rename_i hnow
      obtain ⟨snapshot, hanswer, hstep⟩ := Option.bind_eq_some_iff.mp hstep
      obtain ⟨⟨next, signed⟩, hnext, rfl⟩ := Option.map_eq_some_iff.mp hstep
      obtain ⟨hnone, hsigned⟩ := LinkRun.onAnswer_spec hnow hnext
      refine { h with answers := h.replace hrun (.inl hnone), links := ?_ }
      intro link hlink
      rcases List.mem_append.mp hlink with hlink | hlink
      · exact h.links link hlink
      · obtain ⟨hplanned, hticket, hmark, hid, hkey⟩ := hsigned link hlink
        refine ⟨hplanned, ?_⟩
        rw [hmark, hid, hkey]
        exact h.answers run (List.mem_of_getElem? hrun) snapshot hanswer link.ticket hticket
    · cases hstep
  · cases hstep

theorem LinkWorld.Sound.viewed (h : w.Sound) {i : Nat}
    (hstep : LinkWorld.Step host codec w (.viewed i) w') : w'.Sound := by
  unfold LinkWorld.Step ExecStep LinkWorld.exec at hstep
  dsimp only at hstep
  split at hstep
  · rename_i run hrun
    split at hstep
    · cases hstep
      refine { h with answers := ?_ }
      intro other hother snapshot hanswer ticket hticket
      rcases List.mem_or_eq_of_mem_set hother with hmem | rfl
      · exact h.answers other hmem snapshot hanswer ticket hticket
      · obtain rfl := Option.some.inj hanswer
        exact Follows.refl h.market hticket
    · cases hstep
  · cases hstep

theorem LinkWorld.Sound.relayed (h : w.Sound) {i : Nat} {answer : Option Relayed}
    (hstep : LinkWorld.Step host codec w (.relayed i answer) w') : w'.Sound := by
  unfold LinkWorld.Step ExecStep LinkWorld.exec at hstep
  dsimp only at hstep
  split at hstep
  · rename_i run hrun
    obtain ⟨next, hnext, rfl⟩ := Option.map_eq_some_iff.mp hstep
    refine { h with answers := h.replace hrun (.inr ?_) }
    unfold LinkRun.onRelayer at hnext
    split at hnext
    · cases hnext
      exact ⟨rfl, rfl⟩
    · cases hnext
      exact ⟨rfl, rfl⟩
    · cases hnext
  · cases hstep

theorem LinkWorld.Sound.ofMarket (h : w.Sound) {label : Label}
    (hstep : LinkWorld.Step host codec w (.market label) w') : w'.Sound := by
  obtain ⟨market, hmarket, rfl⟩ := Option.map_eq_some_iff.mp hstep
  have hmarket : worldStep host w.market label market := hmarket
  have hnow := World.step_now hmarket
  have hnew := addedBy_now hmarket
  constructor
  · exact h.market.step hmarket
  · exact h.timed.step h.market hmarket
  · intro entry hentry
    rcases List.mem_append.mp hentry with hentry | hentry
    · exact (h.past entry hentry).trans hnow
    · exact hnew entry hentry
  · intro entry hentry
    rcases List.mem_append.mp hentry with hentry | hentry
    · exact h.expiries entry hentry
    · exact addedBy_expiry host w.market label entry hentry
  · intro run hrun snapshot hanswer ticket hticket
    exact (h.answers run hrun snapshot hanswer ticket hticket).market h.market hmarket
  · intro before entry since heq
    rcases entry_cases (addedBy_length host w.market label) heq with
      ⟨earlier, hadded, rfl⟩ | ⟨hmem, rfl⟩
    · have hmem : entry ∈ w.added := by simp [hadded]
      exact (h.submitted before entry earlier hadded).market h.market (h.past entry hmem) hmarket
    · exact Submitted.ofAdded h.market hmarket entry hmem
  · intro link hlink
    obtain ⟨hplanned, hfollows⟩ := h.links link hlink
    exact ⟨hplanned, hfollows.market h.market hmarket⟩

theorem LinkWorld.Sound.step (h : w.Sound) (hstep : LinkWorld.Step host codec w l w') :
    w'.Sound := by
  cases l with
  | opened input =>
    cases hstep
    refine { h with answers := ?_ }
    intro run hrun snapshot hanswer
    rcases List.mem_append.mp hrun with hrun | hrun
    · exact h.answers run hrun snapshot hanswer
    · obtain rfl := List.mem_singleton.mp hrun
      cases hanswer
  | viewed i => exact h.viewed hstep
  | read i nowMs signMs => exact h.read hstep
  | relayed i answer => exact h.relayed hstep
  | market label => exact h.ofMarket hstep

theorem LinkWorld.Sound.trace (h : w.Sound) {tr : List (Transition LinkWorld LinkLabel)}
    (htr : Trace (LinkWorld.Step host codec) w tr w') : w'.Sound :=
  htr.invariant (fun _ _ _ hs hst => hs.step hst) h

end Runs

end Youtick.Web
