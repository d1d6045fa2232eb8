import Youtick.MarketV2.System

/-!
# Market V2: what one call can do

One relation for each part of the storage says everything a successful call can write to it, with
the guards the call passed: `RolesStep`, `ControlsStep`, `CatalogStep` and, for the tickets and the
balances, `TillStep`. Invariants are proved from these relations and never unfold a method.

A ticket change is a `TicketStep` together with the `Flow` of money that goes with it, so that what
happens to one ticket and what happens to the balances are said in one place. The balances an
account can withdraw are `Pot`s. `release_expired` is the only method that changes several tickets;
its effect is a sequence of single releases (`TillEffect.batch`).
-/

set_option autoImplicit false

namespace Youtick.MarketV2

open Youtick.Lib

/-! ## Promises by kind -/

/-- A code upgrade batch. -/
def Promise.isDeploy : Promise → Bool
  | .deployContract .. => true
  | _ => false

/-- A callback of a USDC transfer. -/
def Call.settlesUsdc : Call → Bool
  | .callback (.onPlatformNearWithdraw _) => false
  | .callback _ => true
  | _ => false

/-- A transfer of USDC, or one with the callback of a USDC transfer. -/
def Promise.isUsdc : Promise → Bool
  | .ftTransfer .. => true
  | .transfer _ _ (some callback) => (Call.callback callback).settlesUsdc
  | _ => false

/-! ## Roles -/

section Parts

variable (env : Env) (s : Contract)

inductive RolesStep : Call → Roles → Prop where
  | same {c : Call} : RolesStep c s.toRoles
  | proposeBridge {next : AccountId} (hadmin : env.predecessorAccountId = s.adminAccountId)
      (hvalid : assertValidBridgeAccount s next = .ok ⟨⟩) :
      RolesStep (.proposeBridge next) { s.toRoles with
        pendingBridgeAccountId := some next
        bridgeRotationProposedAtMs := some env.blockTimestampMs }
  | cancelBridge : RolesStep .cancelBridgeRotation { s.toRoles with
      pendingBridgeAccountId := none
      bridgeRotationProposedAtMs := none }
  | executeBridge {next : AccountId} {proposedAtMs executableAtMs : Nat}
      (hadmin : env.predecessorAccountId = s.adminAccountId)
      (hproposed : s.bridgeRotationProposedAtMs = some proposedAtMs)
      (hexecutable : bridgeRotationExecutableAtMs env proposedAtMs = .ok executableAtMs)
      (hdue : executableAtMs ≤ env.blockTimestampMs)
      (hpending : s.pendingBridgeAccountId = some next) :
      RolesStep .executeBridgeRotation { s.toRoles with
        pendingBridgeAccountId := none
        activeBridgeAccountId := next
        bridgeRotationProposedAtMs := none }
  | proposeRole {role : GovernanceRole} (pending : PendingRoleRotation)
      (hadmin : env.predecessorAccountId = s.adminAccountId)
      (hvalid : assertValidRoleAssignment s role pending.nextAccountId = .ok ⟨⟩) :
      RolesStep (.proposeRoleRotation role pending.nextAccountId) { s.toRoles with
        roleRotations := s.roleRotations.insert role pending }
  | cancelRole {role : GovernanceRole} : RolesStep (.cancelRoleRotation role) { s.toRoles with
      roleRotations := s.roleRotations.remove role }
  | executeRole {role : GovernanceRole} {pending : PendingRoleRotation}
      (hadmin : env.predecessorAccountId = s.adminAccountId)
      (hpending : s.roleRotations.get role = some pending)
      (hdue : pending.executableAtMs ≤ env.blockTimestampMs)
      (hcurrent : s.roleAccountId role = pending.currentAccountId)
      (hvalid : assertValidRoleAssignment s role pending.nextAccountId = .ok ⟨⟩) :
      RolesStep (.executeRoleRotation role)
        { s.toRoles.setRoleAccountId role pending.nextAccountId with
          roleRotations := s.roleRotations.remove role }

/-! ## Controls -/

inductive ControlsStep : Call → List Promise → Controls → Prop where
  | same {c : Call} {ps : List Promise} (hps : ∀ p ∈ ps, p.isDeploy = false) :
      ControlsStep c ps s.toControls
  | freeze (hguardian : env.predecessorAccountId = s.guardianAccountId) :
      ControlsStep .freezeBridge [] { s.toControls with bridgeFrozen := true }
  | requestUnfreeze (hadmin : env.predecessorAccountId = s.adminAccountId)
      (hfrozen : s.bridgeFrozen = true) (hnone : s.bridgeUnfreezeRequest = none) :
      ControlsStep .requestBridgeUnfreeze [] { s.toControls with
        bridgeUnfreezeRequest := some env.blockTimestampMs }
  | cancelUnfreeze : ControlsStep .cancelBridgeUnfreeze [] { s.toControls with
      bridgeUnfreezeRequest := none }
  | clearUnfreeze (hopen : s.bridgeFrozen = false) :
      ControlsStep .unfreezeBridge [] { s.toControls with bridgeUnfreezeRequest := none }
  | unfreeze (hadmin : env.predecessorAccountId = s.adminAccountId)
      (hfrozen : s.bridgeFrozen = true)
      (helapsed : assertReopenElapsed env s.bridgeUnfreezeRequest = .ok ⟨⟩) :
      ControlsStep .unfreezeBridge [] { s.toControls with
        bridgeUnfreezeRequest := none
        bridgeFrozen := false }
  | pause {c : Call} (hguardian : env.predecessorAccountId = s.guardianAccountId)
      (hc : c = .pauseNewPurchases ∨ c = .closePublicTestnetBeta) :
      ControlsStep c [] { s.toControls with newPurchasesPausedRaw := some [1] }
  | requestUnpause (hadmin : env.predecessorAccountId = s.adminAccountId)
      (hpaused : newPurchasesPaused s = true) (hnone : s.newPurchasesUnpauseRequest = none) :
      ControlsStep .requestNewPurchasesUnpause [] { s.toControls with
        newPurchasesUnpauseRequest := some env.blockTimestampMs }
  | cancelUnpause : ControlsStep .cancelNewPurchasesUnpause [] { s.toControls with
      newPurchasesUnpauseRequest := none }
  | clearUnpause (hopen : newPurchasesPaused s = false) :
      ControlsStep .unpauseNewPurchases [] { s.toControls with newPurchasesUnpauseRequest := none }
  | unpause (hadmin : env.predecessorAccountId = s.adminAccountId)
      (hpaused : newPurchasesPaused s = true)
      (helapsed : assertReopenElapsed env s.newPurchasesUnpauseRequest = .ok ⟨⟩) :
      ControlsStep .unpauseNewPurchases [] { s.toControls with
        newPurchasesUnpauseRequest := none
        newPurchasesPausedRaw := none }
  | proposeUpgrade (pending : PendingCodeUpgrade)
      (hadmin : env.predecessorAccountId = s.adminAccountId) (hnone : s.codeUpgrade = none)
      (hat : pending.proposedAtMs = env.blockTimestampMs)
      (hdue : (do
        let delay ← governanceDelayMs env mainnetCodeUpgradeDelayMs
        checkedAdd 64 env.blockTimestampMs delay "Code upgrade delay overflow") =
          .ok pending.executableAtMs) :
      ControlsStep (.proposeCodeUpgrade pending.codeSha256) [] { s.toControls with
        codeUpgrade := some pending }
  | cancelUpgrade : ControlsStep .cancelCodeUpgrade [] { s.toControls with codeUpgrade := none }
  | executeUpgrade {code : Bytes} {pending : PendingCodeUpgrade}
      (hpending : s.codeUpgrade = some pending)
      (hdue : pending.executableAtMs ≤ env.blockTimestampMs)
      (hhash : hexSha256 env.toHost code = pending.codeSha256) :
      ControlsStep .executeCodeUpgrade [.deployContract code pending] s.toControls
  | migrate {pending : PendingCodeUpgrade} (hpending : s.codeUpgrade = some pending) :
      ControlsStep .migrate [] { s.toControls with codeUpgrade := none }

/-! ## The catalogue -/

/-- A change of an authorized job that keeps what its publication will be made from. -/
structure JobEdit (old new : MediaJob) : Prop where
  jobId : new.jobId = old.jobId
  creatorId : new.creatorId = old.creatorId
  title : new.title = old.title
  priceUsdc : new.priceUsdc = old.priceUsdc
  expectedSourceBytes : new.expectedSourceBytes = old.expectedSourceBytes
  wasAuthorized : old.status = .authorized
  isAuthorized : new.status = .authorized

inductive CatalogStep : Call → Catalog → Prop where
  | same {c : Call} : CatalogStep c s.toCatalog
  | newJob {c : Call} (job : MediaJob) (hfresh : s.mediaJobs.get job.jobId = none)
      (hstatus : job.status = .authorized) :
      CatalogStep c { s.toCatalog with mediaJobs := s.mediaJobs.insert job.jobId job }
  | editJob {c : Call} {jobId : String} {old new : MediaJob}
      (hold : s.mediaJobs.get jobId = some old) (hedit : JobEdit old new) :
      CatalogStep c { s.toCatalog with mediaJobs := s.mediaJobs.insert jobId new }
  | finalize {submission : PublicationSubmission} {job : MediaJob}
      (hcheck : assertSubmission env s submission = .ok job)
      (hfresh : s.publications.get submission.jobId = none)
      (hasset : bindIdentity s.assetBindings submission.assetIdHash submission.jobId
        "asset_id_hash" = .ok ⟨⟩)
      (hplayback : bindIdentity s.playbackBindings submission.playbackId submission.jobId
        "playback_id" = .ok ⟨⟩)
      (hcount : s.publicationCount + 1 ≤ maxOf 64) :
      CatalogStep (.finalizePublication submission)
        (s.toCatalog.finalized job (publicationOf env job submission))
  | suspend {publicationId : String} {publication : Publication}
      (hget : s.publications.get publicationId = some publication)
      (hactive : publication.availability = .active) :
      CatalogStep (.suspendSales publicationId) { s.toCatalog with
        publications := s.publications.insert publicationId
          { publication with availability := .salesSuspended } }
  | takedown {publicationId reasonCode incidentId evidenceSha256 : String} {effectiveAtMs : Nat}
      {publication : Publication}
      (hget : s.publications.get publicationId = some publication)
      (hup : publication.availability ≠ .takedown) :
      CatalogStep
        (.takedownPublication publicationId reasonCode incidentId evidenceSha256 effectiveAtMs)
        { s.toCatalog with
          publications := s.publications.insert publicationId
            { publication with availability := .takedown }
          takedowns := s.takedowns.insert publicationId {
            publicationId := publicationId
            reasonCode := reasonCode
            incidentId := incidentId
            evidenceSha256 := evidenceSha256
            effectiveAtMs := effectiveAtMs
            recordedAtMs := env.blockTimestampMs } }

end Parts

/-! ## Balances -/

/-- A balance one party can withdraw. -/
inductive Pot where
  | creator (creatorId : AccountId)
  | platform
  | tax
  deriving DecidableEq

def Till.balance (t : Till) : Pot → Nat
  | .creator creatorId => (t.creatorBalances.get creatorId).getD 0
  | .platform => t.platformBalance
  | .tax => t.taxBalance

def Till.setBalance (t : Till) (amount : Nat) : Pot → Till
  | .creator creatorId => { t with creatorBalances := t.creatorBalances.insert creatorId amount }
  | .platform => { t with platformBalance := amount }
  | .tax => { t with taxBalance := amount }

def Till.credit (t : Till) (pot : Pot) (amount : Nat) : Till :=
  t.setBalance (t.balance pot + amount) pot

/-- The callback a withdrawal from a pot is followed by. -/
inductive Pot.Callback : Pot → Nat → Callback → Prop where
  | creator {creatorId withdrawalId : String} {amount : Nat} :
      Pot.Callback (.creator creatorId) amount (.onCreatorWithdraw creatorId amount withdrawalId)
  | platform {amount : Nat} : Pot.Callback .platform amount (.onPlatformWithdraw amount)
  | tax {amount : Nat} : Pot.Callback .tax amount (.onTaxWithdraw amount)

/-! ## Money that moves with a ticket -/

inductive Flow where
  /-- No balance changes. -/
  | still
  /-- The gross amount enters escrow. -/
  | deposit
  /-- A payment reference is used up; no token moves. -/
  | reference (paymentReferenceHmac : String)
  /-- The gross amount leaves escrow in a transfer that restores `status` if it fails. -/
  | payOut (receiverId : AccountId) (restoreStatus : TicketStatus)
  /-- The amount of a failed transfer returns to escrow. -/
  | payBack (amount : Nat)
  /-- The gross amount leaves escrow for the tax, platform and creator balances. -/
  | settle

/-- The transfers a flow schedules for the ticket stored under `ticketId`. -/
def Flow.sends (ticketId : String) (ticket : Ticket) : Flow → List Promise
  | .payOut receiverId restoreStatus =>
    [.ftTransfer receiverId ticket.grossUsdcMicro "ticket refund"
      (.onTicketRefund ticketId receiverId ticket.grossUsdcMicro (some restoreStatus))]
  | _ => []

/-- The balances after a flow. -/
def Flow.apply (ticket : Ticket) (t : Till) : Flow → Till
  | .still => t
  | .deposit => { t with escrowBalance := t.escrowBalance + ticket.grossUsdcMicro }
  | .reference hmac => { t with cardReferences := insert hmac t.cardReferences }
  | .payOut _ _ => { t with escrowBalance := t.escrowBalance - ticket.grossUsdcMicro }
  | .payBack amount => { t with escrowBalance := t.escrowBalance + amount }
  | .settle =>
    ((({ t with escrowBalance := t.escrowBalance - ticket.grossUsdcMicro }
      : Till).credit .tax ticket.vatUsdcMicro).credit .platform ticket.platformUsdcMicro).credit
        (.creator ticket.creatorId) ticket.creatorUsdcMicro

/-- What a flow takes out of escrow is there. -/
def Flow.Covered (ticket : Ticket) (t : Till) : Flow → Prop
  | .payOut _ _ | .settle => ticket.grossUsdcMicro ≤ t.escrowBalance
  | _ => True

/-! ## Tickets -/

/-- A refund of `ticket` may start now: after a takedown always, before it only by the payment
operator, while purchases are not paused and the refund window is open. -/
def RefundAllowed (env : Env) (s : Contract) (ticket : Ticket) : Prop :=
  takenDown s ticket.publicationId = true ∨
    (env.predecessorAccountId = s.paymentOperatorId ∧ newPurchasesPaused s = false ∧
      env.blockTimestampMs < ticket.purchasedAtMs + escrowReleaseMs)

/-- Escrow of `ticket` may be released now. -/
def ReleaseDue (env : Env) (s : Contract) (ticket : Ticket) : Prop :=
  ticket.InEscrow ∧ ticket.purchasedAtMs + escrowReleaseMs ≤ env.blockTimestampMs ∧
    takenDown s ticket.publicationId = false

/-- The statuses of a ticket that may get a device. -/
def TicketStatus.Playable (status : TicketStatus) : Prop :=
  status = .purchased ∨ status = .watched ∨ status = .watchedInEscrow ∨ status = .released

/-- A ticket as both sales create it, for an active publication. -/
structure NewTicket (env : Env) (s : Contract) (ticket : Ticket) : Prop where
  publication : ∃ publication, s.publications.get ticket.publicationId = some publication ∧
    publication.availability = .active ∧ ticket.creatorId = publication.creatorId
  key : ∃ key, parseEd25519Key env.toHost ticket.ticketPublicKey = .ok key ∧
    ticket.ticketId = hexSha256 env.toHost key
  status : ticket.status = .purchased
  purchasedAtMs : ticket.purchasedAtMs = env.blockTimestampMs
  deviceEpoch : ticket.deviceEpoch = 0
  device : ∃ device, ticket.devices = [device] ∧ device.authorizedAtMs = env.blockTimestampMs

/-- A ticket sold for `amount` USDC. -/
structure CryptoSale (env : Env) (s : Contract) (amount : Nat) (ticket : Ticket) : Prop
    extends NewTicket env s ticket where
  rail : ticket.rail = .crypto
  card : ticket.card = none
  gross : ticket.grossUsdcMicro = amount
  split : ticket.vatUsdcMicro + ticket.platformUsdcMicro + ticket.creatorUsdcMicro = amount

/-- A ticket issued for a card payment; no USDC stands behind it. -/
structure CardIssue (env : Env) (s : Contract) (paymentReferenceHmac : String) (ticket : Ticket) :
    Prop extends NewTicket env s ticket where
  rail : ticket.rail = .card
  gross : ticket.grossUsdcMicro = 0
  vat : ticket.vatUsdcMicro = 0
  platform : ticket.platformUsdcMicro = 0
  creator : ticket.creatorUsdcMicro = 0
  card : ticket.card.map (·.paymentReferenceHmac) = some paymentReferenceHmac
  fresh : paymentReferenceHmac ∉ s.cardReferences

/-- What one call can make of the ticket stored under `k`, and the money that moves with it. -/
inductive TicketStep (env : Env) (s : Contract) :
    Call → String → Option Ticket → Ticket → Flow → Prop where
  | sold {senderId msg : String} {amount : Nat} {ticket : Ticket}
      (hsale : CryptoSale env s amount ticket) :
      TicketStep env s (.ftOnTransfer senderId amount msg) ticket.ticketId none ticket .deposit
  | issued {ticketPublicKey publicationId hmac grossMinor currency : String}
      {device : SignedTicketDevice} {ticket : Ticket} (hissue : CardIssue env s hmac ticket) :
      TicketStep env s
        (.issueCardTicket ticketPublicKey publicationId device hmac grossMinor currency)
        ticket.ticketId none ticket (.reference hmac)
  | watched {k : String} {ticket : Ticket} {status : TicketStatus}
      (hpurchased : ticket.status = .purchased)
      (hstatus : status = match ticket.rail with
        | .crypto => .watchedInEscrow
        | .card => .watched) :
      TicketStep env s (.markWatched k) k (some ticket) { ticket with status := status } .still
  | refundStarted {k expiresAtMs signature : String} {receiverId : AccountId} {ticket : Ticket}
      (hescrow : ticket.InEscrow) (hallowed : RefundAllowed env s ticket) :
      TicketStep env s (.refundTicket k receiverId expiresAtMs signature) k (some ticket)
        { ticket with status := .refunded } (.payOut receiverId ticket.status)
  | released {ids : List String} {k : String} {ticket : Ticket} (hmem : k ∈ ids)
      (hdue : ReleaseDue env s ticket) :
      TicketStep env s (.releaseExpired ids) k (some ticket) { ticket with status := .released }
        .settle
  | deviceAdded {k key certificate epoch expiresAtMs signature : String} {ticket evicted : Ticket}
      {events : List Event} {device : TicketDevice} (hplayable : ticket.status.Playable)
      (hepoch : assertDeviceEpoch ticket epoch = .ok ⟨⟩)
      (hevicted : evictOldest k { ticket with
        devices := ticket.devices.filter fun device =>
          decide (device.expiresAtMs > env.blockTimestampMs) &&
            decide (device.sessionPublicKey ≠ key) } = .ok (evicted, events))
      (hdevice : newTicketDevice env key certificate = .ok device) :
      TicketStep env s (.addDevice k key certificate epoch expiresAtMs signature) k (some ticket)
        { evicted with devices := evicted.devices ++ [device] } .still
  | deviceRevoked {c : Call} {k key : String} {ticket : Ticket}
      (hc : (∃ epoch expiresAtMs signature,
          c = .revokeDevice k key epoch expiresAtMs signature ∧
            assertDeviceEpoch ticket epoch = .ok ⟨⟩) ∨
        c = .platformRevokeDevice k key) :
      TicketStep env s c k (some ticket) { ticket with
        devices := ticket.devices.filter fun device => decide (device.sessionPublicKey ≠ key)
        deviceEpoch := ticket.deviceEpoch + 1 } .still
  | voided {k reason : String} {ticket : Ticket} (hrail : ticket.rail = .card)
      (hstatus : ticket.status = .purchased ∨ ticket.status = .watched) :
      TicketStep env s (.voidCardTicket k reason) k (some ticket)
        { ticket with status := .voided, devices := [] } .still
  | refundFinished {k : String} {receiverId : AccountId} {amount : Nat}
      {restoreStatus : Option TicketStatus} {ticket : Ticket}
      (hresult : env.promiseResults = [.successful]) :
      TicketStep env s (.callback (.onTicketRefund k receiverId amount restoreStatus)) k
        (some ticket) { ticket with devices := [] } .still
  | refundRestored {k : String} {receiverId : AccountId} {amount : Nat}
      {restoreStatus : Option TicketStatus} {ticket : Ticket}
      (hresult : env.promiseResults = [.failed]) :
      TicketStep env s (.callback (.onTicketRefund k receiverId amount restoreStatus)) k
        (some ticket) { ticket with status := restoreStatus.getD .purchased } (.payBack amount)

/-! ## The till -/

inductive TillStep (env : Env) (s : Contract) : Call → Till → List Promise → Till → Prop where
  | quiet {c : Call} {t : Till} {ps : List Promise} (hc : c.settlesUsdc = false)
      (hps : ∀ p ∈ ps, p.isUsdc = false) : TillStep env s c t ps t
  | vatKeyRevoked {t : Till} {version : Nat} :
      TillStep env s (.revokeVatKey version) t [] { t with vatKeys := t.vatKeys.remove version }
  | jobFee {senderId msg : String} {amount : Nat} {t : Till} :
      TillStep env s (.ftOnTransfer senderId amount msg) t [] (t.credit .platform amount)
  | ticket {c : Call} {k : String} {old : Option Ticket} {new : Ticket} {flow : Flow} {t : Till}
      (hget : t.tickets.get k = old) (hstep : TicketStep env s c k old new flow)
      (hcovered : flow.Covered new t) :
      TillStep env s c t (flow.sends k new)
        (flow.apply new { t with tickets := t.tickets.insert k new })
  | withdrawn {c : Call} {t : Till} {pot : Pot} {receiverId : AccountId} {memo : String}
      {callback : Callback} (hc : c.settlesUsdc = false)
      (hcallback : pot.Callback (t.balance pot) callback) :
      TillStep env s c t [.ftTransfer receiverId (t.balance pot) memo callback]
        (t.setBalance 0 pot)
  | withdrawalFinished {t : Till} {pot : Pot} {amount : Nat} {callback : Callback}
      (hcallback : pot.Callback amount callback) (hresult : env.promiseResults = [.successful]) :
      TillStep env s (.callback callback) t [] t
  | withdrawalRestored {t : Till} {pot : Pot} {amount : Nat} {callback : Callback}
      (hcallback : pot.Callback amount callback) (hresult : env.promiseResults = [.failed]) :
      TillStep env s (.callback callback) t [] (t.credit pot amount)

/-- Releases of single tickets, one after another. -/
abbrev ReleaseRun (env : Env) (s : Contract) (ids : List String) : Till → Till → Prop :=
  Relation.ReflTransGen fun t t' => TillStep env s (.releaseExpired ids) t [] t'

inductive TillEffect (env : Env) (s : Contract) : Call → Till → List Promise → Till → Prop where
  | once {c : Call} {t t' : Till} {ps : List Promise} (h : TillStep env s c t ps t') :
      TillEffect env s c t ps t'
  | batch {ids : List String} {t t' : Till} (h : ReleaseRun env s ids t t') :
      TillEffect env s (.releaseExpired ids) t [] t'

/-- Every ticket is stored under its own id. -/
def Till.Keyed (t : Till) : Prop := ∀ k ticket, t.tickets.get k = some ticket → ticket.ticketId = k

/-! ## The whole storage -/

/-- What a successful call did to each part of the storage. -/
structure Effect (env : Env) (s : Contract) (c : Call) (s' : Contract) (ps : List Promise) :
    Prop where
  roles : RolesStep env s c s'.toRoles
  controls : ControlsStep env s c ps s'.toControls
  catalog : CatalogStep env s c s'.toCatalog
  till : s.toTill.Keyed → TillEffect env s c s.toTill ps s'.toTill

section Effect

variable {env : Env} {s : Contract} {c : Call} {ps : List Promise}

/-- Nothing that a relation describes is written; the upload part may be. -/
theorem Effect.ofUploads (uploads : Uploads) (hc : c.settlesUsdc = false)
    (husdc : ∀ p ∈ ps, p.isUsdc = false) (hdeploy : ∀ p ∈ ps, p.isDeploy = false) :
    Effect env s c { s with toUploads := uploads } ps where
  roles := .same
  controls := .same hdeploy
  catalog := .same
  till := fun _ => .once (.quiet hc husdc)

theorem Effect.refl (hc : c.settlesUsdc = false) : Effect env s c s [] :=
  .ofUploads s.toUploads hc (by simp) (by simp)

theorem Effect.ofRoles {roles : Roles} (h : RolesStep env s c roles)
    (hc : c.settlesUsdc = false) : Effect env s c { s with toRoles := roles } [] where
  roles := h
  controls := .same (by simp)
  catalog := .same
  till := fun _ => .once (.quiet hc (by simp))

theorem Effect.ofControls {controls : Controls} (h : ControlsStep env s c ps controls)
    (hc : c.settlesUsdc = false) (husdc : ∀ p ∈ ps, p.isUsdc = false) :
    Effect env s c { s with toControls := controls } ps where
  roles := .same
  controls := h
  catalog := .same
  till := fun _ => .once (.quiet hc husdc)

theorem Effect.ofCatalog {catalog : Catalog} (uploads : Uploads)
    (h : CatalogStep env s c catalog) (hc : c.settlesUsdc = false) :
    Effect env s c { s with toCatalog := catalog, toUploads := uploads } [] where
  roles := .same
  controls := .same (by simp)
  catalog := h
  till := fun _ => .once (.quiet hc (by simp))

theorem Effect.ofTill {till : Till}
    (h : s.toTill.Keyed → TillEffect env s c s.toTill ps till)
    (hdeploy : ∀ p ∈ ps, p.isDeploy = false) : Effect env s c { s with toTill := till } ps where
  roles := .same
  controls := .same hdeploy
  catalog := .same
  till := h

end Effect

end Youtick.MarketV2
