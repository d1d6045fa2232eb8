import Youtick.MarketV2.CodeUpgrade

/-!
# Market V2: what a call logs

`Logs` says which events a successful call logs, together with everything it then changed that the
events on the 1.0.0 envelope speak of: the media jobs, the publications and the quote key version
(`Shown`). A call logs at most one event on that envelope; the ticket events are on the other one.

`Call.announces` is the fact an event of a repeatable kind is about, read off the call and the
storage before it. A call that succeeds and announces something logs an event whose name and
idempotency key spell that fact.
-/

set_option autoImplicit false

namespace Youtick.MarketV2

open Youtick.Lib

/-! ## Fields of an event -/

/-- The value of a field of the event's data object. -/
def Event.field (e : Event) (key : String) : Option Json :=
  (e.data.find? fun field => decide (field.1 = key)).map Prod.snd

def Event.idempotencyKey (e : Event) : Option String :=
  match e.field "idempotency_key" with
  | some (.str key) => some key
  | _ => none

/-- On the 1.0.0 envelope. -/
def Event.isMarket (e : Event) : Bool := decide (e.version = "1.0.0")

/-- Data of an event leave the key to `emit_market_event`. -/
def Keyless (data : List (String × Json)) : Prop := ∀ field ∈ data, field.1 ≠ "idempotency_key"

@[simp] theorem emitMarketV2Event_isMarket (event : String) (data : List (String × Json)) :
    (emitMarketV2Event event data).isMarket = false :=
  rfl

/-! ## Facts that can be announced again -/

inductive Occasion where
  | governance (event : String) (caller : AccountId) (atMs : Nat)
  | uploadKey (jobId : String) (generation : Nat) (keySha256 : String)
  | codeUpgraded (codeSha256 : String)
  | creatorWithdrawal (creatorId : AccountId) (amount atMs : Nat)
  | platformWithdrawal (asset : FeeAsset) (amount atMs : Nat)
  | takedown (publicationAndIncident : String)

/-- The event of a governance call that changes something. -/
@[simp] def Call.governanceEvent (s : Contract) : Call → Option String
  | .freezeBridge => if s.bridgeFrozen then none else some "bridge_frozen"
  | .requestBridgeUnfreeze =>
    if s.bridgeUnfreezeRequest = none then some "bridge_unfreeze_requested" else none
  | .cancelBridgeUnfreeze =>
    if s.bridgeUnfreezeRequest = none then none else some "bridge_unfreeze_cancelled"
  | .unfreezeBridge => if s.bridgeFrozen then some "bridge_unfrozen" else none
  | .pauseNewPurchases => if newPurchasesPaused s then none else some "new_purchases_paused"
  | .requestNewPurchasesUnpause =>
    if s.newPurchasesUnpauseRequest = none then some "new_purchases_unpause_requested" else none
  | .cancelNewPurchasesUnpause =>
    if s.newPurchasesUnpauseRequest = none then none
    else some "new_purchases_unpause_cancelled"
  | .unpauseNewPurchases => if newPurchasesPaused s then some "new_purchases_unpaused" else none
  | .startPublicTestnetBeta => some "public_testnet_beta_started"
  | .closePublicTestnetBeta =>
    if (s.publicTestnetBeta.bind (·.closedAtMs)).isSome then none
    else some "public_testnet_beta_closed"
  | .proposeBridge next =>
    if s.pendingBridgeAccountId = some next then none else some "bridge_rotation_proposed"
  | .cancelBridgeRotation =>
    if s.pendingBridgeAccountId = none then none else some "bridge_rotation_cancelled"
  | .executeBridgeRotation => some "bridge_rotated"
  | .proposeRoleRotation role _ =>
    if s.roleRotations.get role = none then some "role_rotation_proposed" else none
  | .cancelRoleRotation role =>
    if s.roleRotations.get role = none then none else some "role_rotation_cancelled"
  | .executeRoleRotation _ => some "role_rotated"
  | .proposeCodeUpgrade _ =>
    if s.codeUpgrade = none then some "code_upgrade_proposed" else none
  | .cancelCodeUpgrade => if s.codeUpgrade = none then none else some "code_upgrade_cancelled"
  | .revokeVatKey _ => some "vat_key_revoked"
  | _ => none

/-- What a call announces if it succeeds, of the facts that can be announced again. -/
@[simp] def Call.announces (env : Env) (s : Contract) : Call → Option Occasion
  | .replaceUploadKey jobId newPublicKey _ =>
    (s.mediaJobs.get jobId).map fun job =>
      .uploadKey job.jobId job.generation (hexSha256 env.toHost (utf8 newPublicKey))
  | .migrate => s.codeUpgrade.map fun pending => .codeUpgraded pending.codeSha256
  | .withdrawCreatorBalance =>
    some (.creatorWithdrawal env.predecessorAccountId
      (s.toTill.balance (.creator env.predecessorAccountId)) env.blockTimestampMs)
  | .withdrawPlatformBalance =>
    some (.platformWithdrawal .usdc s.platformBalance env.blockTimestampMs)
  | .withdrawPlatformNear amount => some (.platformWithdrawal .near amount env.blockTimestampMs)
  | .takedownPublication publicationId _ incidentId _ _ =>
    if takenDown s publicationId then none
    else some (.takedown (publicationId ++ ":takedown:" ++ incidentId))
  | c =>
    (c.governanceEvent s).map fun event =>
      .governance event env.predecessorAccountId env.blockTimestampMs

namespace Occasion

def event : Occasion → String
  | .governance event _ _ => event
  | .uploadKey _ _ _ => "media_job_upload_key_replaced"
  | .codeUpgraded _ => "code_upgraded"
  | .creatorWithdrawal _ _ _ => "creator_balance_withdrawal_started"
  | .platformWithdrawal _ _ _ => "platform_withdrawal_started"
  | .takedown _ => "publication_takedown"

def key : Occasion → String
  | .governance event caller atMs =>
    "governance:" ++ event ++ ":" ++ caller ++ ":" ++ decimal atMs
  | .uploadKey jobId generation keySha256 =>
    "job:" ++ jobId ++ ":" ++ decimal generation ++ ":upload-key:" ++ keySha256
  | .codeUpgraded codeSha256 => "governance:code_upgraded:" ++ codeSha256
  | .creatorWithdrawal creatorId amount atMs =>
    "creator-withdrawal:" ++ creatorId ++ ":" ++ decimal amount ++ ":" ++ decimal atMs
  | .platformWithdrawal asset amount atMs =>
    "platform-withdrawal:" ++ feeAssetName asset ++ ":" ++ decimal amount ++ ":" ++ decimal atMs
  | .takedown publicationAndIncident => "publication:" ++ publicationAndIncident

end Occasion

/-! ## The events -/

def uploadKeyReplacedEvent (env : Env) (job : MediaJob) : Event :=
  let keySha256 := hexSha256 env.toHost (utf8 job.uploadPublicKey)
  emitMarketEvent env "media_job_upload_key_replaced"
    ("job:" ++ job.jobId ++ ":" ++ decimal job.generation ++ ":upload-key:" ++ keySha256)
    [("account_id", .str job.creatorId),
     ("job_id", .str job.jobId),
     ("generation", .num job.generation),
     ("upload_public_key_sha256", .str keySha256),
     ("upload_key_expires_at_ms", .dec job.uploadKeyExpiresAtMs)]

def publicationFinalizedEvent (env : Env) (publication : Publication) : Event :=
  emitMarketEvent env "publication_finalized"
    ("publication:" ++ publication.publicationId ++ ":" ++ decimal publication.generation ++
      ":finalized")
    [("account_id", .str publication.creatorId),
     ("publication_id", .str publication.publicationId),
     ("job_id", .str publication.publicationId),
     ("generation", .num publication.generation),
     ("title", .str publication.title),
     ("playback_id", .str publication.playbackId),
     ("published_at_ms", .num publication.publishedAtMs),
     ("asset", .str "USDC"),
     ("amount", .dec publication.priceUsdc),
     ("availability", .str publication.availability.name)]

def salesSuspendedEvent (env : Env) (publicationId : String) (suspended : Publication) : Event :=
  emitMarketEvent env "publication_sales_suspended"
    ("publication:" ++ publicationId ++ ":sales-suspended")
    [("account_id", .str suspended.creatorId),
     ("publication_id", .str publicationId),
     ("generation", .num suspended.generation),
     ("availability", .str suspended.availability.name)]

def takedownEvent (env : Env) (publicationId : String) (takenDown : Publication)
    (reasonCode incidentId evidenceSha256 : String) (effectiveAtMs : Nat) : Event :=
  emitMarketEvent env "publication_takedown"
    ("publication:" ++ publicationId ++ ":takedown:" ++ incidentId)
    [("account_id", .str takenDown.creatorId),
     ("publication_id", .str publicationId),
     ("generation", .num takenDown.generation),
     ("reason_code", .str reasonCode),
     ("incident_id", .str incidentId),
     ("evidence_sha256", .str evidenceSha256),
     ("effective_at_ms", .dec effectiveAtMs),
     ("availability", .str takenDown.availability.name)]

def quoteKeyRotatedEvent (env : Env) (version : Nat) (publicKey : Bytes) : Event :=
  emitMarketEvent env "quote_key_rotated" ("quote-key:" ++ decimal version)
    [("account_id", .str env.predecessorAccountId),
     ("quote_key_version", .num version),
     ("quote_public_key_sha256", .str (hexSha256 env.toHost publicKey))]

/-- The four withdrawal events; only a failure has a reason. -/
def withdrawalEvent (env : Env) (event : String) (accountId : AccountId) (asset : FeeAsset)
    (amount : Nat) (withdrawalId : String) (reason : List (String × Json)) : Event :=
  emitMarketEvent env event withdrawalId
    ([("account_id", .str accountId),
      ("asset", .str (feeAssetName asset)),
      ("amount", .dec amount),
      ("withdrawal_id", .str withdrawalId)] ++ reason)

def creatorWithdrawalId (creatorId : AccountId) (amount atMs : Nat) : String :=
  "creator-withdrawal:" ++ creatorId ++ ":" ++ decimal amount ++ ":" ++ decimal atMs

/-! ## What the events speak of -/

structure Shown where
  mediaJobs : LookupMap String MediaJob
  publications : LookupMap String Publication
  quoteKeyVersion : Nat

def Contract.shown (s : Contract) : Shown where
  mediaJobs := s.mediaJobs
  publications := s.publications
  quoteKeyVersion := s.quoteKeyVersion

/-- The withdrawal a receipt's callback resolves. -/
def Promise.withdrawalId (promise : Promise) : Option String :=
  match promise.callback with
  | some (.onCreatorWithdraw _ _ withdrawalId) => some withdrawalId
  | _ => none

section Logs

variable (env : Env) (s : Contract)

/-- What a successful call changed of `Shown`, the promises and the events it left. -/
inductive Logs : Call → Shown → List Promise → List Event → Prop where
  | quiet {c : Call} {ps : List Promise} {es : List Event} (hquiet : c.announces env s = none)
      (hps : ∀ p ∈ ps, p.withdrawalId = none) (hes : ∀ e ∈ es, e.isMarket = false) :
      Logs c s.shown ps es
  | governance {c : Call} {event : String} {data : List (String × Json)}
      (hevent : c.governanceEvent s = some event) (hdata : Keyless data) :
      Logs c s.shown [] [emitGovernanceEvent env event data]
  | codeUpgraded {pending : PendingCodeUpgrade} (hpending : s.codeUpgrade = some pending) :
      Logs .migrate s.shown [] [codeUpgraded env s pending]
  | jobAuthorized {c : Call} (job : MediaJob) (hquiet : c.announces env s = none)
      (hfresh : s.mediaJobs.get job.jobId = none) (hgeneration : job.generation = 1) :
      Logs c { s.shown with mediaJobs := s.mediaJobs.insert job.jobId job } []
        [mediaJobAuthorizedEvent env job]
  | uploadKeyReplaced {jobId newPublicKey : String} {expiresAtMs : Nat} {job replaced : MediaJob}
      (hjob : s.mediaJobs.get jobId = some job)
      (hreplaced : replaced =
        { job with uploadPublicKey := newPublicKey, uploadKeyExpiresAtMs := expiresAtMs }) :
      Logs (.replaceUploadKey jobId newPublicKey expiresAtMs)
        { s.shown with mediaJobs := s.mediaJobs.insert jobId replaced } []
        [uploadKeyReplacedEvent env replaced]
  | quoteKeyRotated {version : Nat} {publicKey : Bytes} (hversion : version = s.quoteKeyVersion + 1) :
      Logs (.rotateQuotePublicKey version publicKey) { s.shown with quoteKeyVersion := version } []
        [quoteKeyRotatedEvent env version publicKey]
  | restarted {jobId profileId profileConfigSha256 : String} {expectedSourceBytes : Nat}
      {job : MediaJob} :
      Logs (.restartPaidJob jobId expectedSourceBytes profileId profileConfigSha256)
        { s.shown with
          mediaJobs := s.mediaJobs.insert jobId { job with
            generation := job.generation + 1
            profileId := profileId
            profileConfigSha256 := profileConfigSha256 } } [] []
  | finalized {submission : PublicationSubmission} {job : MediaJob} {publication : Publication}
      (hfresh : s.publications.get submission.jobId = none)
      (hpublication : publication = publicationOf env job submission) :
      Logs (.finalizePublication submission)
        { s.shown with
          mediaJobs := (s.toCatalog.finalized job publication).mediaJobs
          publications := s.publications.insert submission.jobId publication } []
        [publicationFinalizedEvent env publication]
  | suspended {publicationId : String} {publication suspended : Publication}
      (hget : s.publications.get publicationId = some publication)
      (hactive : publication.availability = .active)
      (hsuspended : suspended = { publication with availability := .salesSuspended }) :
      Logs (.suspendSales publicationId)
        { s.shown with publications := s.publications.insert publicationId suspended } []
        [salesSuspendedEvent env publicationId suspended]
  | takenDown {publicationId reasonCode incidentId evidenceSha256 : String} {effectiveAtMs : Nat}
      {publication takenDown : Publication}
      (hget : s.publications.get publicationId = some publication)
      (hup : publication.availability ≠ .takedown)
      (htakenDown : takenDown = { publication with availability := .takedown }) :
      Logs (.takedownPublication publicationId reasonCode incidentId evidenceSha256 effectiveAtMs)
        { s.shown with publications := s.publications.insert publicationId takenDown } []
        [takedownEvent env publicationId takenDown reasonCode incidentId evidenceSha256
          effectiveAtMs]
  | creatorWithdrawal {creatorId : AccountId} {amount : Nat} {withdrawalId : String}
      (hcreator : creatorId = env.predecessorAccountId)
      (hamount : amount = s.toTill.balance (.creator creatorId))
      (hid : withdrawalId = creatorWithdrawalId creatorId amount env.blockTimestampMs) :
      Logs .withdrawCreatorBalance s.shown
        [.ftTransfer creatorId amount "creator payout"
          (.onCreatorWithdraw creatorId amount withdrawalId)]
        [withdrawalEvent env "creator_balance_withdrawal_started" creatorId .usdc amount
          withdrawalId []]
  | platformWithdrawal {memo : String} :
      Logs .withdrawPlatformBalance s.shown
        [.ftTransfer s.platformAccountId s.platformBalance memo
          (.onPlatformWithdraw s.platformBalance)]
        [withdrawalEvent env "platform_withdrawal_started" s.platformAccountId .usdc
          s.platformBalance
          ("platform-withdrawal:USDC:" ++ decimal s.platformBalance ++ ":" ++
            decimal env.blockTimestampMs) []]
  | nearWithdrawal {amount : Nat} :
      Logs (.withdrawPlatformNear amount) s.shown
        [.transfer s.platformAccountId amount (some (.onPlatformNearWithdraw amount))]
        [withdrawalEvent env "platform_withdrawal_started" s.platformAccountId .near amount
          ("platform-withdrawal:NEAR:" ++ decimal amount ++ ":" ++ decimal env.blockTimestampMs) []]
  | creatorWithdrawn {creatorId withdrawalId event : String} {amount : Nat}
      {reason : List (String × Json)}
      (hreason : event = "creator_balance_withdrawal_succeeded" ∧ reason = [] ∨
        event = "creator_balance_withdrawal_failed" ∧
          reason = [("reason_code", .str "PROMISE_FAILED")]) :
      Logs (.callback (.onCreatorWithdraw creatorId amount withdrawalId)) s.shown []
        [withdrawalEvent env event creatorId .usdc amount withdrawalId reason]

end Logs

end Youtick.MarketV2
